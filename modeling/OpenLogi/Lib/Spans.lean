import Mathlib.Data.Set.Finite.Lemmas
/-!
# Spans — half-open intervals of a linear order

What a finite list of spans covers, and where it begins and ends to.
-/
namespace OpenLogi
namespace Lib

variable {α : Type} [LinearOrder α]

/-- Whether a point lies in a span: its stop is left out. -/
def Within (span : α × α) (x : α) : Prop := span.1 ≤ x ∧ x < span.2

instance (span : α × α) (x : α) : Decidable (Within span x) := inferInstanceAs (Decidable (_ ∧ _))

def Covered (spans : List (α × α)) (x : α) : Prop := ∃ span ∈ spans, Within span x

/-- A span starts here, and none from before reaches here. -/
def StartsAt (spans : List (α × α)) (c : α) : Prop :=
  (∃ span ∈ spans, span.1 = c) ∧ ∀ span ∈ spans, ¬(span.1 < c ∧ c ≤ span.2)

/-- A span stops here, and none goes on. -/
def StopsAt (spans : List (α × α)) (c : α) : Prop :=
  (∃ span ∈ spans, span.2 = c) ∧ ∀ span ∈ spans, ¬Within span c

variable {spans : List (α × α)} {x z lo hi c : α}

theorem exists_greatest {β : Type} (l : List β) (p : β → Prop) (f : β → α) (h : ∃ b ∈ l, p b) :
    ∃ b ∈ l, p b ∧ ∀ b' ∈ l, p b' → f b' ≤ f b := by
  obtain ⟨b, hb, hpb⟩ := h
  obtain ⟨m, hm, hmax⟩ := Set.exists_max_image {b | b ∈ l ∧ p b} f (l.finite_toSet.subset fun _ h => h.1) ⟨b, hb, hpb⟩
  exact ⟨m, hm.1, hm.2, fun b' hb' hp => hmax b' ⟨hb', hp⟩⟩

theorem exists_least {β : Type} (l : List β) (p : β → Prop) (f : β → α) (h : ∃ b ∈ l, p b) :
    ∃ b ∈ l, p b ∧ ∀ b' ∈ l, p b' → f b ≤ f b' := by
  obtain ⟨b, hb, hpb⟩ := h
  obtain ⟨m, hm, hmin⟩ := Set.exists_min_image {b | b ∈ l ∧ p b} f (l.finite_toSet.subset fun _ h => h.1) ⟨b, hb, hpb⟩
  exact ⟨m, hm.1, hm.2, fun b' hb' hp => hmin b' ⟨hb', hp⟩⟩

/-- Between a covered point and one after it that is not, the spans stop. -/
theorem Covered.stops (hx : Covered spans x) (hz : ¬Covered spans z) (hle : x ≤ z) :
    ∃ c, x < c ∧ c ≤ z ∧ StopsAt spans c := by
  obtain ⟨first, hfirst, hstart, hstop⟩ := hx
  obtain ⟨last, hlast, hreach, hmax⟩ := exists_greatest spans (fun span => span.1 ≤ z) Prod.snd
    ⟨first, hfirst, hstart.trans hle⟩
  have hend : last.2 ≤ z := not_lt.1 fun hlt => hz ⟨last, hlast, hreach, hlt⟩
  refine ⟨last.2, hstop.trans_le (hmax first hfirst (hstart.trans hle)), hend, ⟨last, hlast, rfl⟩, ?_⟩
  rintro span hspan ⟨hbefore, hafter⟩
  exact (hmax span hspan (hbefore.trans hend)).not_gt hafter

/-- Between a point that is not covered and one after it that is, the spans start. -/
theorem Covered.starts (hx : Covered spans x) (hz : ¬Covered spans z) (hle : z ≤ x) :
    ∃ c, z < c ∧ c ≤ x ∧ StartsAt spans c := by
  obtain ⟨last, hlast, hstart, hstop⟩ := hx
  obtain ⟨first, hfirst, hreach, hmin⟩ := exists_least spans (fun span => z < span.2) Prod.fst
    ⟨last, hlast, hle.trans_lt hstop⟩
  have hbegin : z < first.1 := not_le.1 fun hle => hz ⟨first, hfirst, hle, hreach⟩
  refine ⟨first.1, hbegin, (hmin last hlast (hle.trans_lt hstop)).trans hstart, ⟨first, hfirst, rfl⟩, ?_⟩
  rintro span hspan ⟨hbefore, hafter⟩
  exact (hmin span hspan (hbegin.trans_le hafter)).not_gt hbefore

/-- Where the spans start, some point from any earlier one on is not covered. -/
theorem StartsAt.gap (h : StartsAt spans c) (hz : z < c) : ∃ y, z ≤ y ∧ y < c ∧ ¬Covered spans y := by
  by_cases hcovered : Covered spans z
  · obtain ⟨first, hfirst, hstart, hstop⟩ := hcovered
    obtain ⟨last, hlast, hbefore, hmax⟩ := exists_greatest spans (fun span => span.1 < c) Prod.snd
      ⟨first, hfirst, hstart.trans_lt hz⟩
    have hend : last.2 < c := not_le.1 fun hle => h.2 last hlast ⟨hbefore, hle⟩
    refine ⟨last.2, hstop.le.trans (hmax first hfirst (hstart.trans_lt hz)), hend, ?_⟩
    rintro ⟨span, hspan, hleft, hright⟩
    exact (hmax span hspan (hleft.trans_lt hend)).not_gt hright
  · exact ⟨z, le_rfl, hz, hcovered⟩

/-- **The spans neither start nor stop from `lo` to `hi` exactly when they cover all of it**, and a bit before. -/
theorem no_ends_iff (hlo : lo ≤ x) (hhi : x ≤ hi) (hx : Covered spans x) :
    (∀ c, lo ≤ c → c ≤ hi → ¬StartsAt spans c ∧ ¬StopsAt spans c) ↔
      ∃ a, a < lo ∧ ∀ z, a ≤ z → z ≤ hi → Covered spans z := by
  constructor
  · intro h
    have hback : ∀ z, lo ≤ z → z ≤ x → Covered spans z := by
      intro z hz hzx
      by_contra hgap
      obtain ⟨c, hc, hcx, hstarts⟩ := hx.starts hgap hzx
      exact (h c (hz.trans hc.le) (hcx.trans hhi)).1 hstarts
    have hon : ∀ z, x ≤ z → z ≤ hi → Covered spans z := by
      intro z hxz hz
      by_contra hgap
      obtain ⟨c, hc, hcz, hstops⟩ := hx.stops hgap hxz
      exact (h c (hlo.trans hc.le) (hcz.trans hz)).2 hstops
    -- a span from before reaches `lo`
    have hbefore : ∃ span ∈ spans, span.1 < lo ∧ lo ≤ span.2 := by
      obtain ⟨span, hspan, hstart, hstop⟩ := hback lo le_rfl hlo
      rcases hstart.lt_or_eq with hlt | heq
      · exact ⟨span, hspan, hlt, hstop.le⟩
      · by_contra hnone
        exact (h lo le_rfl (hlo.trans hhi)).1
          ⟨⟨span, hspan, heq⟩, fun other hother hreach => hnone ⟨other, hother, hreach⟩⟩
    obtain ⟨span, hspan, hstart, hstop⟩ := hbefore
    refine ⟨span.1, hstart, fun z hz hzhi => ?_⟩
    rcases lt_or_ge z lo with hlt | hge
    · exact ⟨span, hspan, hz, hlt.trans_le hstop⟩
    · exact (le_total z x).elim (hback z hge) fun hxz => hon z hxz hzhi
  · rintro ⟨a, ha, hcovered⟩ c hc hchi
    constructor
    · intro hstarts
      obtain ⟨y, hay, hyc, hgap⟩ := hstarts.gap (ha.trans_le hc)
      exact hgap (hcovered y hay (hyc.le.trans hchi))
    · rintro ⟨-, hstops⟩
      obtain ⟨span, hspan, hwithin⟩ := hcovered c (ha.le.trans hc) hchi
      exact hstops span hspan hwithin

end Lib
end OpenLogi
