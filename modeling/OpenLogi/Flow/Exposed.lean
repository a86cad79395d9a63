import Mathlib.Algebra.Order.Field.Basic
import Mathlib.Data.Prod.Lex
import OpenLogi.Flow.Edge
import OpenLogi.Lib.Spans
/-!
# Exposed — which points of a desktop's sides are exposed

Over exact arithmetic, in any ordered field: the segments computed from a layout are the points of the displays' sides
that no other display blocks, in stretches that lie apart on their lines.
-/
namespace OpenLogi
namespace Flow

open OpenLogi.Scroll (F64)
open Lib (Within)

/-! ## Exact arithmetic -/

/-- The functions of `f64` that need not have a value in an ordered field. -/
class Transcendental (K : Type) where
  exp : K → K
  powf : K → K → K
  ofSecs : K → Nat
  hypot : K → K → K

/-- The arithmetic of an ordered field. -/
abbrev exactField (K : Type) [Field K] [LinearOrder K] [Transcendental K] : DesktopF64 K where
  lit q := (q : K)
  eq a b := a = b
  lt a b := a < b
  le a b := a ≤ b
  isFinite _ := true
  abs a := if a < 0 then -a else a
  signum a := if a < 0 then -1 else 1
  max := max
  min := min
  clamp a low high := if a < low then low else if high < a then high else a
  exp := Transcendental.exp
  powf := Transcendental.powf
  powi a n := a ^ n
  secs n := n / 1000000000
  ofSecs := Transcendental.ofSecs
  totalCmp := compare
  hypot := Transcendental.hypot
  midpoint a b := (a + b) / 2

/-! ## Sorting -/

/-- A sort by a relation that compares keys. -/
theorem pairwise_sort {β γ : Type} [LinearOrder γ] (key : β → γ) (r : β → β → Prop) [DecidableRel r]
    (hr : ∀ a b, r a b ↔ key a ≤ key b) (l : List β) : (l.insertionSort r).Pairwise fun a b => key a ≤ key b := by
  have htotal : Std.Total r := ⟨fun a b => (le_total (key a) (key b)).imp (hr a b).2 (hr b a).2⟩
  have htrans : IsTrans β r := ⟨fun a b c hab hbc => (hr a c).2 (((hr a b).1 hab).trans ((hr b c).1 hbc))⟩
  exact (List.pairwise_insertionSort r l).imp fun h => (hr _ _).1 h

theorem EdgeSide.index_injective : Function.Injective EdgeSide.index := by
  intro a b h
  cases a <;> cases b <;> first | rfl | cases h

namespace EdgeSegment

variable {K : Type} [LinearOrder K]

/-- Where a segment stands among the lines. -/
def lineKey (segment : EdgeSegment K) : Lex (Nat × Lex (K × K)) :=
  toLex (segment.side.index, toLex (segment.coordinate, segment.start))

/-- Where it stands along its side. -/
def startKey (segment : EdgeSegment K) : Lex (Nat × Lex (K × Lex (K × K))) :=
  toLex (segment.side.index, toLex (segment.start, toLex (segment.coordinate, segment.stop)))

theorem lineKey_le {a b : EdgeSegment K} : a.lineKey ≤ b.lineKey ↔ a.side.index < b.side.index ∨
    a.side.index = b.side.index ∧ (a.coordinate < b.coordinate ∨ a.coordinate = b.coordinate ∧ a.start ≤ b.start) := by
  unfold lineKey
  rw [Prod.Lex.toLex_le_toLex, Prod.Lex.toLex_le_toLex]

theorem startKey_le {a b : EdgeSegment K} : a.startKey ≤ b.startKey ↔ a.side.index < b.side.index ∨
    a.side.index = b.side.index ∧ (a.start < b.start ∨ a.start = b.start ∧
      (a.coordinate < b.coordinate ∨ a.coordinate = b.coordinate ∧ a.stop ≤ b.stop)) := by
  unfold startKey
  rw [Prod.Lex.toLex_le_toLex, Prod.Lex.toLex_le_toLex, Prod.Lex.toLex_le_toLex]

/-- Two segments of one line, apart and in their order. -/
def Apart (a b : EdgeSegment K) : Prop := a.side = b.side → a.coordinate = b.coordinate → a.stop < b.start

/-- Whether a segment holds a point of a line. -/
def Covers (segment : EdgeSegment K) (side : EdgeSide) (coordinate along : K) : Prop :=
  segment.side = side ∧ segment.coordinate = coordinate ∧ Within (segment.start, segment.stop) along

instance (segment : EdgeSegment K) (side : EdgeSide) (coordinate along : K) :
    Decidable (segment.Covers side coordinate along) :=
  inferInstanceAs (Decidable (_ ∧ _ ∧ _))

/-- A segment between two of one line lies on it too. -/
theorem line_between {a b c : EdgeSegment K} (hab : a.lineKey ≤ b.lineKey) (hbc : b.lineKey ≤ c.lineKey)
    (hside : a.side = c.side) (hcoordinate : a.coordinate = c.coordinate) :
    a.side = b.side ∧ a.coordinate = b.coordinate ∧ a.start ≤ b.start ∧ b.start ≤ c.start := by
  rw [lineKey_le] at hab hbc
  rw [← hside, ← hcoordinate] at hbc
  have hindex : a.side.index = b.side.index := by omega
  have hab := (hab.resolve_left hindex.not_lt).2
  have hbc := (hbc.resolve_left hindex.symm.not_lt).2
  have hline : a.coordinate = b.coordinate :=
    le_antisymm (hab.elim le_of_lt fun h => h.1.le) (hbc.elim le_of_lt fun h => h.1.le)
  exact ⟨EdgeSide.index_injective hindex, hline, (hab.resolve_left hline.not_lt).2,
    (hbc.resolve_left hline.symm.not_lt).2⟩

/-- Of segments that lie apart, one holds a point. -/
theorem once_of_apart {segments : List (EdgeSegment K)} {side : EdgeSide} {coordinate along : K}
    (h : segments.Pairwise Apart) : segments.countP (fun segment => segment.Covers side coordinate along) ≤ 1 := by
  induction segments with
  | nil => exact Nat.zero_le _
  | cons segment rest ih =>
    obtain ⟨hfirst, hrest⟩ := List.pairwise_cons.1 h
    rw [List.countP_cons]
    split
    · rename_i hcovers
      obtain ⟨rfl, rfl, -, hstop⟩ := of_decide_eq_true hcovers
      have hnone : rest.countP (fun other => other.Covers segment.side segment.coordinate along) = 0 := by
        refine List.countP_eq_zero.2 fun other hother hcovers => ?_
        obtain ⟨hside, hline, hstart, -⟩ := of_decide_eq_true hcovers
        exact (hstop.trans (hfirst other hother hside.symm hline.symm)).not_ge hstart
      rw [hnone]
    · exact ih hrest

/-- Sorted along their side, segments that lie apart on their lines keep the order they have there. -/
theorem apart_of_sorted {segments : List (EdgeSegment K)} (hpos : ∀ segment ∈ segments, segment.start < segment.stop)
    (hapart : segments.Pairwise fun a b => a.Apart b ∨ b.Apart a)
    (hsorted : segments.Pairwise fun a b => a.startKey ≤ b.startKey) : segments.Pairwise Apart := by
  refine (hapart.and hsorted).imp_of_mem fun {a b} ha hb h hside hline => ?_
  obtain ⟨hab | hba, hkey⟩ := h
  · exact hab hside hline
  · have hstart : a.start ≤ b.start := by
      rw [startKey_le, hside] at hkey
      rcases (hkey.resolve_left (lt_irrefl _)).2 with hlt | ⟨heq, -⟩
      · exact hlt.le
      · exact heq.le
    exact absurd (hpos b hb) ((hba hside.symm hline.symm).le.trans hstart).not_gt

end EdgeSegment

section
variable {K : Type} [Field K] [LinearOrder K] [Transcendental K]

attribute [local instance] exactField

theorem exact_eq {a b : K} : F64.eq a b = true ↔ a = b := decide_eq_true_iff

theorem exact_lt {a b : K} : F64.lt a b = true ↔ a < b := decide_eq_true_iff

theorem exact_le {a b : K} : F64.le a b = true ↔ a ≤ b := decide_eq_true_iff

theorem byLine_iff (a b : EdgeSegment K) : a.byLine b ≠ .gt ↔ a.lineKey ≤ b.lineKey := by
  rw [EdgeSegment.byLine, EdgeSegment.lineKey_le, Ne, Ordering.then_eq_gt, Ordering.then_eq_gt, Ordering.then_eq_eq]
  simp only [DesktopF64.totalCmp, compare_gt_iff_gt, compare_eq_iff_eq]
  grind

theorem byStart_iff (a b : EdgeSegment K) : a.byStart b ≠ .gt ↔ a.startKey ≤ b.startKey := by
  rw [EdgeSegment.byStart, EdgeSegment.startKey_le, Ne, Ordering.then_eq_gt, Ordering.then_eq_gt, Ordering.then_eq_gt,
    Ordering.then_eq_eq, Ordering.then_eq_eq]
  simp only [DesktopF64.totalCmp, compare_gt_iff_gt, compare_eq_iff_eq]
  grind

/-! ## What a side exposes -/

theorem gap_within (a b x : K) : (∃ piece ∈ if F64.lt a b then [(a, b)] else [], Within piece x) ↔ Within (a, b) x := by
  split
  · simp
  · rename_i hge
    simp only [List.not_mem_nil, false_and, exists_false, false_iff]
    exact fun hx => hge (exact_lt.2 (hx.1.trans_lt hx.2))

/-- What is left of the span from `cursor` on is what no covered span holds. -/
theorem exposedFrom_within (stop : K) (covered : List (K × K)) (cursor : K)
    (hsorted : covered.Pairwise fun a b => a.1 ≤ b.1)
    (hspans : ∀ span ∈ covered, span.1 < span.2 ∧ span.2 ≤ stop) (x : K) :
    (∃ piece ∈ exposedFrom stop cursor covered, Within piece x) ↔
      Within (cursor, stop) x ∧ ∀ span ∈ covered, ¬Within span x := by
  induction covered generalizing cursor with
  | nil =>
    rw [exposedFrom, gap_within]
    simp
  | cons span rest ih =>
    obtain ⟨hfirst, hrest⟩ := List.pairwise_cons.1 hsorted
    obtain ⟨⟨hpos, hend⟩, hlater⟩ := List.forall_mem_cons.1 hspans
    cases span with
    | mk start finish =>
    dsimp only at hpos hend hfirst
    rw [exposedFrom, List.forall_mem_cons]
    by_cases hbehind : finish ≤ cursor
    · rw [if_pos (exact_le.2 hbehind), ih cursor hrest hlater]
      have hout : Within (cursor, stop) x → ¬Within (start, finish) x := fun hx hin => (hbehind.trans hx.1).not_gt hin.2
      tauto
    · have hcursor : F64.max cursor finish = finish := max_eq_right (not_le.1 hbehind).le
      have hahead : Within (cursor, start) x → ∀ span ∈ rest, ¬Within span x := fun hx span hspan hin =>
        (hx.2.trans_le (hfirst span hspan)).not_ge hin.1
      have hsplit : Within (cursor, stop) x ∧ ¬Within (start, finish) x ↔
          Within (cursor, start) x ∨ Within (finish, stop) x := by
        unfold Within
        dsimp only
        constructor
        · rintro ⟨⟨hfrom, hto⟩, hout⟩
          rcases lt_or_ge x start with hlt | hge
          · exact .inl ⟨hfrom, hlt⟩
          · exact .inr ⟨not_lt.1 fun hlt => hout ⟨hge, hlt⟩, hto⟩
        · rintro (⟨hfrom, hto⟩ | ⟨hfrom, hto⟩)
          · exact ⟨⟨hfrom, (hto.trans hpos).trans_le hend⟩, fun hin => hto.not_ge hin.1⟩
          · exact ⟨⟨(not_le.1 hbehind).le.trans hfrom, hto⟩, fun hin => hin.2.not_ge hfrom⟩
      rw [if_neg fun hc => hbehind (exact_le.1 hc)]
      dsimp only
      rw [hcursor, ← and_assoc, hsplit]
      split
      · -- the side is covered to its end
        rename_i hfull
        have hempty : ¬Within (finish, stop) x := fun hx => ((exact_le.1 hfull).trans hx.1).not_gt hx.2
        rw [if_neg fun hc => (exact_lt.1 hc).not_ge (exact_le.1 hfull)]
        simp only [List.append_nil, gap_within]
        tauto
      · simp only [List.mem_append, or_and_right, exists_or, gap_within, ih finish hrest hlater]
        tauto

theorem exposedFrom_positive {stop : K} : ∀ {covered : List (K × K)} {cursor : K},
    ∀ piece ∈ exposedFrom stop cursor covered, piece.1 < piece.2 := by
  have hgap : ∀ {a b : K}, ∀ piece ∈ (if F64.lt a b then [(a, b)] else []), piece.1 < piece.2 := by
    intro a b piece hpiece
    split at hpiece
    · rename_i hlt
      cases List.mem_singleton.1 hpiece
      exact exact_lt.1 hlt
    · cases hpiece
  intro covered
  induction covered with
  | nil => exact hgap
  | cons span rest ih =>
    intro cursor piece hpiece
    rw [exposedFrom] at hpiece
    split at hpiece
    · exact ih piece hpiece
    · dsimp only at hpiece
      split at hpiece
      · exact (List.mem_append.1 hpiece).elim (hgap piece) (hgap piece)
      · exact (List.mem_append.1 hpiece).elim (hgap piece) (ih piece)

/-- **The intervals exposed are what none of the covered spans holds of the side.** -/
theorem exposedIntervals_within (start stop : K) (covered : List (K × K)) (x : K) :
    (∃ piece ∈ exposedIntervals start stop covered, Within piece x) ↔
      Within (start, stop) x ∧ ∀ span ∈ covered, ¬Within span x := by
  unfold exposedIntervals
  dsimp only
  have hclip : ∀ span : K × K, Within (F64.max span.1 start, F64.min span.2 stop) x ↔
      Within span x ∧ Within (start, stop) x := by
    intro span
    change max span.1 start ≤ x ∧ x < min span.2 stop ↔ _
    rw [max_le_iff, lt_min_iff]
    exact and_and_and_comm
  rw [exposedFrom_within]
  · refine and_congr_right fun hside => ?_
    simp only [List.mem_insertionSort, List.mem_filter, List.mem_map]
    constructor
    · intro h span hspan hin
      have hwithin := (hclip span).2 ⟨hin, hside⟩
      exact h _ ⟨⟨span, hspan, rfl⟩, exact_lt.2 (hwithin.1.trans_lt hwithin.2)⟩ hwithin
    · rintro h _ ⟨⟨span, hspan, rfl⟩, -⟩ hin
      exact h span hspan ((hclip span).1 hin).1
  · exact pairwise_sort Prod.fst _ (fun a b => compare_le_iff_le) _
  · intro span hspan
    obtain ⟨hspan, hlt⟩ := List.mem_filter.1 ((List.mem_insertionSort _).1 hspan)
    obtain ⟨whole, -, rfl⟩ := List.mem_map.1 hspan
    exact ⟨exact_lt.1 hlt, min_le_right _ _⟩

/-! ## Joining what lies on one line -/

/-- Segments that hold the points of a region, each once: they are not empty, and on one line they lie apart in the
order of the list. -/
structure Partitions (region : EdgeSide → K → K → Prop) (segments : List (EdgeSegment K)) : Prop where
  points : ∀ side coordinate along, (∃ segment ∈ segments, segment.Covers side coordinate along) ↔
    region side coordinate along
  positive : ∀ segment ∈ segments, segment.start < segment.stop
  apart : segments.Pairwise EdgeSegment.Apart
  once : ∀ side coordinate along, segments.countP (fun segment => segment.Covers side coordinate along) ≤ 1

theorem joins_iff {last segment : EdgeSegment K} : (last.side = segment.side &&
    DesktopF64.totalCmp last.coordinate segment.coordinate = .eq && F64.le segment.start last.stop) = true ↔
      last.side = segment.side ∧ last.coordinate = segment.coordinate ∧ segment.start ≤ last.stop := by
  rw [Bool.and_eq_true, Bool.and_eq_true, decide_eq_true_eq, decide_eq_true_eq, exact_le, and_assoc]
  exact and_congr_right fun _ => and_congr_left fun _ => compare_eq_iff_eq

variable {last segment : EdgeSegment K} {rest : List (EdgeSegment K)} {side : EdgeSide} {coordinate along : K}

/-- The joined segment. -/
abbrev joined (last segment : EdgeSegment K) : EdgeSegment K := { last with stop := F64.max last.stop segment.stop }

theorem mergeFrom_joins (h : last.side = segment.side ∧ last.coordinate = segment.coordinate ∧
    segment.start ≤ last.stop) : mergeFrom last (segment :: rest) = mergeFrom (joined last segment) rest := by
  rw [mergeFrom, if_pos (joins_iff.2 h)]

theorem mergeFrom_parts (h : ¬(last.side = segment.side ∧ last.coordinate = segment.coordinate ∧
    segment.start ≤ last.stop)) : mergeFrom last (segment :: rest) = last :: mergeFrom segment rest := by
  rw [mergeFrom, if_neg fun hc => h (joins_iff.1 hc)]

theorem joined_covers (h : last.side = segment.side ∧ last.coordinate = segment.coordinate ∧
    segment.start ≤ last.stop) (hstart : last.start ≤ segment.start) :
    (joined last segment).Covers side coordinate along ↔
      last.Covers side coordinate along ∨ segment.Covers side coordinate along := by
  obtain ⟨hside, hline, htouch⟩ := h
  unfold EdgeSegment.Covers Within
  dsimp only
  rw [← hside, ← hline, ← and_or_left, ← and_or_left]
  refine and_congr_right fun _ => and_congr_right fun _ => ?_
  change _ ∧ along < max last.stop segment.stop ↔ _
  rw [lt_max_iff]
  constructor
  · rintro ⟨hfrom, hto | hto⟩
    · exact .inl ⟨hfrom, hto⟩
    · exact (lt_or_ge along last.stop).imp (fun hlt => ⟨hfrom, hlt⟩) fun hge => ⟨htouch.trans hge, hto⟩
  · rintro (⟨hfrom, hto⟩ | ⟨hfrom, hto⟩)
    · exact ⟨hfrom, .inl hto⟩
    · exact ⟨hstart.trans hfrom, .inr hto⟩

/-- The order of the lines, with the first two segments joined. -/
theorem sorted_joined (h : (last :: segment :: rest).Pairwise fun a b => a.lineKey ≤ b.lineKey) :
    (joined last segment :: rest).Pairwise fun a b => a.lineKey ≤ b.lineKey := by
  obtain ⟨hlast, hrest⟩ := List.pairwise_cons.1 h
  exact List.pairwise_cons.2
    ⟨fun other hother => hlast other (List.mem_cons_of_mem _ hother), (List.pairwise_cons.1 hrest).2⟩

theorem mergeFrom_covers (h : (last :: rest).Pairwise fun a b => a.lineKey ≤ b.lineKey) :
    (∃ segment ∈ mergeFrom last rest, segment.Covers side coordinate along) ↔
      ∃ segment ∈ last :: rest, segment.Covers side coordinate along := by
  induction rest generalizing last with
  | nil => exact Iff.rfl
  | cons segment rest ih =>
    obtain ⟨hlast, hrest⟩ := List.pairwise_cons.1 h
    by_cases hjoins : last.side = segment.side ∧ last.coordinate = segment.coordinate ∧ segment.start ≤ last.stop
    · have hstart := (EdgeSegment.line_between (hlast segment List.mem_cons_self) le_rfl hjoins.1 hjoins.2.1).2.2.1
      rw [mergeFrom_joins hjoins, ih (sorted_joined h)]
      simp only [List.exists_mem_cons_iff, joined_covers hjoins hstart, or_assoc]
    · rw [mergeFrom_parts hjoins, List.exists_mem_cons_iff, List.exists_mem_cons_iff, ih hrest]

/-- Every merged segment starts where one of its line did. -/
theorem mergeFrom_starts {merged : EdgeSegment K} (h : merged ∈ mergeFrom last rest) :
    ∃ segment ∈ last :: rest, merged.side = segment.side ∧ merged.coordinate = segment.coordinate ∧
      merged.start = segment.start := by
  induction rest generalizing last with
  | nil =>
    rw [List.mem_singleton.1 h]
    exact ⟨last, List.mem_cons_self, rfl, rfl, rfl⟩
  | cons segment rest ih =>
    by_cases hjoins : last.side = segment.side ∧ last.coordinate = segment.coordinate ∧ segment.start ≤ last.stop
    · rw [mergeFrom_joins hjoins] at h
      obtain ⟨found, hfound, hsame⟩ := ih h
      rcases List.mem_cons.1 hfound with rfl | hfound
      · exact ⟨last, List.mem_cons_self, hsame⟩
      · exact ⟨found, List.mem_cons_of_mem _ (List.mem_cons_of_mem _ hfound), hsame⟩
    · rw [mergeFrom_parts hjoins] at h
      rcases List.mem_cons.1 h with heq | h
      · rw [heq]
        exact ⟨last, List.mem_cons_self, rfl, rfl, rfl⟩
      · obtain ⟨found, hfound, hsame⟩ := ih h
        exact ⟨found, List.mem_cons_of_mem _ hfound, hsame⟩

theorem mergeFrom_apart (h : (last :: rest).Pairwise fun a b => a.lineKey ≤ b.lineKey) :
    (mergeFrom last rest).Pairwise EdgeSegment.Apart := by
  induction rest generalizing last with
  | nil => exact List.pairwise_singleton _ _
  | cons segment rest ih =>
    obtain ⟨hlast, hrest⟩ := List.pairwise_cons.1 h
    by_cases hjoins : last.side = segment.side ∧ last.coordinate = segment.coordinate ∧ segment.start ≤ last.stop
    · rw [mergeFrom_joins hjoins]
      exact ih (sorted_joined h)
    · rw [mergeFrom_parts hjoins]
      refine List.pairwise_cons.2 ⟨fun merged hmerged hside hline => ?_, ih hrest⟩
      obtain ⟨found, hfound, hfside, hfline, hfstart⟩ := mergeFrom_starts hmerged
      have hle : segment.lineKey ≤ found.lineKey := by
        rcases List.mem_cons.1 hfound with rfl | hfound
        · exact le_rfl
        · exact (List.pairwise_cons.1 hrest).1 found hfound
      obtain ⟨hsame, hlsame, -, hstart⟩ := EdgeSegment.line_between (hlast segment List.mem_cons_self) hle
        (hside.trans hfside) (hline.trans hfline)
      have hgap : last.stop < segment.start := not_le.1 fun htouch => hjoins ⟨hsame, hlsame, htouch⟩
      rw [hfstart]
      exact hgap.trans_le hstart

theorem mergeFrom_positive (h : ∀ segment ∈ last :: rest, segment.start < segment.stop) :
    ∀ merged ∈ mergeFrom last rest, merged.start < merged.stop := by
  induction rest generalizing last with
  | nil => exact h
  | cons segment rest ih =>
    obtain ⟨hlast, hrest⟩ := List.forall_mem_cons.1 h
    by_cases hjoins : last.side = segment.side ∧ last.coordinate = segment.coordinate ∧ segment.start ≤ last.stop
    · rw [mergeFrom_joins hjoins]
      exact ih (List.forall_mem_cons.2 ⟨hlast.trans_le (le_max_left _ _), (List.forall_mem_cons.1 hrest).2⟩)
    · rw [mergeFrom_parts hjoins]
      exact List.forall_mem_cons.2 ⟨hlast, ih hrest⟩

/-- **Joining keeps the points and counts none twice.** -/
theorem mergeCollinear_partitions (segments : List (EdgeSegment K))
    (h : ∀ segment ∈ segments, segment.start < segment.stop) :
    Partitions (fun side coordinate along => ∃ segment ∈ segments, segment.Covers side coordinate along)
      (mergeCollinear segments) := by
  have hsorted := pairwise_sort EdgeSegment.lineKey (fun a b => a.byLine b ≠ .gt) byLine_iff segments
  have hmem : ∀ segment, segment ∈ segments.insertionSort (fun a b => a.byLine b ≠ .gt) ↔ segment ∈ segments :=
    fun segment => List.mem_insertionSort _
  unfold mergeCollinear
  cases hlist : segments.insertionSort fun a b => a.byLine b ≠ .gt with
  | nil =>
    rw [hlist] at hmem
    refine ⟨fun side coordinate along => ?_, fun segment hsegment => ?_, List.Pairwise.nil, fun _ _ _ => Nat.zero_le _⟩
    · exact exists_congr fun segment => and_congr_left fun _ => hmem segment
    · cases hsegment
  | cons first rest =>
    rw [hlist] at hsorted hmem
    have hapart := mergeFrom_apart hsorted
    refine ⟨fun side coordinate along => ?_,
      mergeFrom_positive fun segment hsegment => h segment ((hmem segment).1 hsegment), hapart,
      fun _ _ _ => EdgeSegment.once_of_apart hapart⟩
    rw [mergeFrom_covers hsorted]
    exact exists_congr fun segment => and_congr_left fun _ => hmem segment

/-! ## The layout -/

/-- Whether a point of a line lies on a side of a display that no other display blocks there. -/
def OnOpenSide (displays : List (DisplayRect K)) (side : EdgeSide) (coordinate along : K) : Prop :=
  ∃ display ∈ displays, (display.sideSpan side).1 = coordinate ∧ Within (display.sideSpan side).2 along ∧
    ∀ other ∈ displays, other ≠ display → display.blocksSide other side = true → ¬Within (other.overlapSpan side) along

theorem exact_display_eq {a b : DisplayRect K} : a.eq b = true ↔ a = b := by
  cases a
  cases b
  simp only [DisplayRect.eq, Bool.and_eq_true, exact_eq, DisplayRect.mk.injEq, and_assoc]

theorem mem_uniqueDisplays (unique displays : List (DisplayRect K)) (display : DisplayRect K) :
    display ∈ uniqueDisplays unique displays ↔ display ∈ unique ∨ display ∈ displays := by
  induction displays generalizing unique with
  | nil => simp [uniqueDisplays]
  | cons first rest ih =>
    rw [uniqueDisplays, List.mem_cons]
    split
    · rename_i hknown
      obtain ⟨other, hother, heq⟩ := List.any_eq_true.1 hknown
      cases exact_display_eq.1 heq
      rw [ih]
      constructor
      · exact fun h => h.imp_right .inr
      · rintro (h | rfl | h)
        · exact .inl h
        · exact .inl hother
        · exact .inr h
    · rw [ih, List.mem_append, List.mem_singleton, or_assoc]

/-- No display blocks its own sides. -/
theorem blocksSide_self (display : DisplayRect K) (side : EdgeSide) : display.blocksSide display side = false := by
  cases side <;> simp [DisplayRect.blocksSide, F64.lt]

/-- A display's side is exposed exactly where no display blocks it. -/
theorem exposedSide_covers {displays : List (DisplayRect K × Nat)}
    (hindex : ∀ a ∈ displays, ∀ b ∈ displays, a.2 = b.2 → a = b) {display : DisplayRect K × Nat}
    (hdisplay : display ∈ displays) (onSide : EdgeSide) :
    (∃ segment ∈ exposedSide displays display onSide, segment.Covers side coordinate along) ↔
      onSide = side ∧ (display.1.sideSpan onSide).1 = coordinate ∧ Within (display.1.sideSpan onSide).2 along ∧
        ∀ other ∈ displays, display.1.blocksSide other.1 onSide = true →
          ¬Within (other.1.overlapSpan onSide) along := by
  have hcovers : ∀ pieces : List (K × K), (∃ segment ∈ pieces.map (fun piece =>
      (⟨onSide, (display.1.sideSpan onSide).1, piece.1, piece.2⟩ : EdgeSegment K)),
      segment.Covers side coordinate along) ↔
        onSide = side ∧ (display.1.sideSpan onSide).1 = coordinate ∧ ∃ piece ∈ pieces, Within piece along := by
    intro pieces
    constructor
    · rintro ⟨segment, hsegment, hside, hline, hwithin⟩
      obtain ⟨piece, hpiece, rfl⟩ := List.mem_map.1 hsegment
      exact ⟨hside, hline, piece, hpiece, hwithin⟩
    · rintro ⟨hside, hline, piece, hpiece, hwithin⟩
      exact ⟨_, List.mem_map_of_mem hpiece, hside, hline, hwithin⟩
  refine (hcovers _).trans (and_congr_right fun _ => and_congr_right fun _ => ?_)
  refine (exposedIntervals_within ..).trans (and_congr_right fun _ => ?_)
  simp only [List.forall_mem_map, List.mem_filter, Bool.and_eq_true, decide_eq_true_eq]
  constructor
  · intro h other hother hblocks
    refine h other ⟨hother, fun hsame => ?_, hblocks⟩
    rw [hindex other hother display hdisplay hsame, blocksSide_self] at hblocks
    cases hblocks
  · rintro h other ⟨hother, -, hblocks⟩
    exact h other hother hblocks

theorem exposedSide_positive (displays : List (DisplayRect K × Nat)) (display : DisplayRect K × Nat)
    (onSide : EdgeSide) : ∀ segment ∈ exposedSide displays display onSide, segment.start < segment.stop := by
  intro segment hsegment
  obtain ⟨piece, hpiece, rfl⟩ := List.mem_map.1 hsegment
  exact exposedFrom_positive piece hpiece

/-- The parts of every side, before what lies on one line is joined. -/
abbrev exposedParts (displays : List (DisplayRect K)) : List (EdgeSegment K) :=
  let displays := (uniqueDisplays [] displays).zipIdx
  displays.flatMap fun display => EdgeSide.all.flatMap (exposedSide displays display)

theorem mem_zipIdx_unique {displays : List (DisplayRect K)} {display : DisplayRect K} :
    (∃ index, (display, index) ∈ (uniqueDisplays [] displays).zipIdx) ↔ display ∈ displays := by
  have hunique : display ∈ uniqueDisplays [] displays ↔ display ∈ displays := by
    rw [mem_uniqueDisplays]
    exact or_iff_right List.not_mem_nil
  rw [← hunique, List.mem_iff_getElem?]
  exact exists_congr fun index => List.mem_zipIdx_iff_getElem?

theorem exposedParts_covers (displays : List (DisplayRect K)) :
    (∃ segment ∈ exposedParts displays, segment.Covers side coordinate along) ↔
      OnOpenSide displays side coordinate along := by
  have hindex : ∀ a ∈ (uniqueDisplays [] displays).zipIdx, ∀ b ∈ (uniqueDisplays [] displays).zipIdx,
      a.2 = b.2 → a = b := by
    intro a ha b hb hsame
    rw [List.mem_zipIdx_iff_getElem?] at ha hb
    rw [← hsame, ha] at hb
    exact Prod.ext (Option.some.inj hb) hsame
  constructor
  · rintro ⟨segment, hsegment, hcovers⟩
    obtain ⟨⟨display, index⟩, hdisplay, hsegment⟩ := List.mem_flatMap.1 hsegment
    obtain ⟨onSide, -, hsegment⟩ := List.mem_flatMap.1 hsegment
    obtain ⟨rfl, hline, hwithin, hopen⟩ := (exposedSide_covers hindex hdisplay onSide).1 ⟨segment, hsegment, hcovers⟩
    refine ⟨display, mem_zipIdx_unique.1 ⟨index, hdisplay⟩, hline, hwithin, fun other hother _ hblocks => ?_⟩
    obtain ⟨otherIndex, hother⟩ := mem_zipIdx_unique.2 hother
    exact hopen _ hother hblocks
  · rintro ⟨display, hdisplay, hline, hwithin, hopen⟩
    obtain ⟨index, hdisplay⟩ := mem_zipIdx_unique.2 hdisplay
    have hfree : ∀ other ∈ (uniqueDisplays [] displays).zipIdx, display.blocksSide other.1 side = true →
        ¬Within (other.1.overlapSpan side) along := by
      intro other hother hblocks
      refine hopen other.1 (mem_zipIdx_unique.1 ⟨other.2, hother⟩) (fun hsame => ?_) hblocks
      rw [hsame, blocksSide_self] at hblocks
      cases hblocks
    obtain ⟨segment, hsegment, hcovers⟩ := (exposedSide_covers hindex hdisplay side).2 ⟨rfl, hline, hwithin, hfree⟩
    refine ⟨segment, List.mem_flatMap.2 ⟨_, hdisplay, List.mem_flatMap.2 ⟨side, ?_, hsegment⟩⟩, hcovers⟩
    cases side <;> decide

theorem exposed_edges_partition (displays : List (DisplayRect K)) :
    Partitions (OnOpenSide displays) (ExposedEdges.fromDisplays displays).segments := by
  have hparts : ∀ segment ∈ exposedParts displays, segment.start < segment.stop := by
    intro segment hsegment
    obtain ⟨display, -, hsegment⟩ := List.mem_flatMap.1 hsegment
    obtain ⟨onSide, -, hsegment⟩ := List.mem_flatMap.1 hsegment
    exact exposedSide_positive _ _ _ segment hsegment
  have hmerged := mergeCollinear_partitions (exposedParts displays) hparts
  have hperm := List.perm_insertionSort (fun a b => a.byStart b ≠ .gt) (mergeCollinear (exposedParts displays))
  change Partitions _ ((mergeCollinear (exposedParts displays)).insertionSort fun a b => a.byStart b ≠ .gt)
  refine ⟨fun side coordinate along => ?_, fun segment hsegment => ?_, ?_, fun side coordinate along => ?_⟩
  · rw [← exposedParts_covers, ← hmerged.points]
    exact exists_congr fun segment => and_congr_left fun _ => hperm.mem_iff
  · exact hmerged.positive segment (hperm.mem_iff.1 hsegment)
  · refine EdgeSegment.apart_of_sorted (fun segment hsegment => hmerged.positive segment (hperm.mem_iff.1 hsegment)) ?_
      (pairwise_sort EdgeSegment.startKey _ byStart_iff _)
    exact (hperm.pairwise_iff fun h => h.symm).2 (hmerged.apart.imp .inl)
  · rw [hperm.countP_eq]
    exact hmerged.once side coordinate along

end

end Flow
end OpenLogi
