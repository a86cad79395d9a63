import Mathlib.Data.Finset.Card
/-!
# Watermark — a set of numbers kept as a contiguous prefix and its early members

`through` covers every number up to it and `early` the later ones that came out of order.  The representation is tight
when no early number adjoins the watermark; then a number adjoins the covered prefix exactly when every smaller one is
covered (`le_through_succ_iff`).
-/
namespace OpenLogi
namespace Lib

structure Watermark where
  through : Nat
  early : Finset Nat
  deriving DecidableEq

namespace Watermark

/-- The numbers `w` stands for. -/
def Covers (w : Watermark) (n : Nat) : Prop := n ≤ w.through ∨ n ∈ w.early

instance (w : Watermark) (n : Nat) : Decidable (w.Covers n) := inferInstanceAs (Decidable (_ ∨ _))

/-- No early number adjoins the watermark or lies under it. -/
def Tight (w : Watermark) : Prop := ∀ n ∈ w.early, w.through + 1 < n

/-- Raise the watermark over the early numbers that adjoin it. -/
def absorb (w : Watermark) : Watermark :=
  if w.through + 1 ∈ w.early then absorb ⟨w.through + 1, w.early.erase (w.through + 1)⟩ else w
termination_by w.early.card
decreasing_by exact Finset.card_erase_lt_of_mem ‹_›

/-- Cover one more number. -/
def mark (w : Watermark) (n : Nat) : Watermark :=
  if n = w.through + 1 then absorb { w with through := n } else { w with early := insert n w.early }

theorem covers_absorb (w : Watermark) (m : Nat) : w.absorb.Covers m ↔ w.Covers m := by
  induction w using absorb.induct with
  | case1 w h ih =>
    rw [absorb, if_pos h, ih]
    unfold Covers
    rw [Finset.mem_erase]
    constructor
    · rintro (hm | ⟨_, hm⟩)
      · rcases Nat.lt_or_ge w.through m with hlt | hle
        · obtain rfl : m = w.through + 1 := Nat.le_antisymm hm hlt
          exact Or.inr h
        · exact Or.inl hle
      · exact Or.inr hm
    · rintro (hm | hm)
      · exact Or.inl (Nat.le_succ_of_le hm)
      · by_cases he : m = w.through + 1
        · exact Or.inl (Nat.le_of_eq he)
        · exact Or.inr ⟨he, hm⟩
  | case2 w h => rw [absorb, if_neg h]

theorem tight_absorb (w : Watermark) (h : ∀ n ∈ w.early, w.through < n) : w.absorb.Tight := by
  induction w using absorb.induct with
  | case1 w hm ih =>
    rw [absorb, if_pos hm]
    refine ih fun n hn => ?_
    obtain ⟨hne, hn⟩ := Finset.mem_erase.1 hn
    have := h n hn
    show w.through + 1 < n
    omega
  | case2 w hm =>
    rw [absorb, if_neg hm]
    intro n hn
    have := h n hn
    have hne : n ≠ w.through + 1 := fun he => hm (he ▸ hn)
    omega

/-- **Marking a number covers it and nothing else.** -/
theorem covers_mark (w : Watermark) (n m : Nat) : (w.mark n).Covers m ↔ w.Covers m ∨ m = n := by
  unfold mark
  split
  · rename_i hn
    rw [covers_absorb]
    unfold Covers
    constructor
    · rintro (hm | hm)
      · rcases Nat.lt_or_ge m n with hlt | hge
        · exact Or.inl (Or.inl (by omega))
        · exact Or.inr (Nat.le_antisymm hm hge)
      · exact Or.inl (Or.inr hm)
    · rintro ((hm | hm) | rfl)
      · exact Or.inl (by show m ≤ n; omega)
      · exact Or.inr hm
      · exact Or.inl (Nat.le_refl _)
  · unfold Covers
    rw [Finset.mem_insert]
    constructor
    · rintro (hm | rfl | hm)
      · exact Or.inl (Or.inl hm)
      · exact Or.inr rfl
      · exact Or.inl (Or.inr hm)
    · rintro ((hm | hm) | rfl)
      · exact Or.inl hm
      · exact Or.inr (Or.inr hm)
      · exact Or.inr (Or.inl rfl)

/-- **Marking a number that was not covered keeps the representation tight.** -/
theorem tight_mark (w : Watermark) (n : Nat) (h : w.Tight) (hn : ¬ w.Covers n) : (w.mark n).Tight := by
  unfold mark
  split
  · rename_i he
    refine tight_absorb _ fun m hm => ?_
    have := h m hm
    show n < m
    omega
  · rename_i he
    intro m hm
    rcases Finset.mem_insert.1 hm with rfl | hm
    · have : ¬ m ≤ w.through := fun hle => hn (Or.inl hle)
      show w.through + 1 < m
      omega
    · exact h m hm

/-- **A tight watermark adjoins exactly the numbers whose every predecessor is covered.** -/
theorem le_through_succ_iff (w : Watermark) (h : w.Tight) (n : Nat) :
    n ≤ w.through + 1 ↔ ∀ m, m < n → w.Covers m := by
  constructor
  · intro hn m hm
    exact Or.inl (by omega)
  · intro hall
    refine Nat.not_lt.1 fun hlt => ?_
    rcases hall (w.through + 1) hlt with hle | he
    · omega
    · exact absurd (h _ he) (Nat.lt_irrefl _)

end Watermark
end Lib
end OpenLogi
