import OpenLogi.Lib.Run
/-!
# Lifecycle — one start, then anything in between, then one stop

The phases of something that starts once and stops once, as a partial step on marks: a list of marks that runs from
`fresh` is a beginning of `start mid* stop`.
-/
namespace OpenLogi
namespace Lib

inductive Mark where
  | start
  | mid
  | stop
  deriving DecidableEq

inductive Phase where
  | fresh
  | live
  | over
  deriving DecidableEq

def Phase.next : Phase → Mark → Option Phase
  | .fresh, .start => some .live
  | .live, .mid => some .live
  | .live, .stop => some .over
  | _, _ => none

variable {l : List Mark}

theorem run_next_over {p : Phase} (h : run Phase.next .over l = some p) : l = [] ∧ p = .over := by
  cases l with
  | nil => cases h; exact ⟨rfl, rfl⟩
  | cons m l => cases m <;> cases h

/-- **The marks of something live** that are still to come. -/
theorem run_next_live : ∀ {l : List Mark} {p : Phase}, run Phase.next .live l = some p →
    (p = .live ∧ ∃ k, l = List.replicate k .mid) ∨ (p = .over ∧ ∃ k, l = List.replicate k .mid ++ [.stop])
  | [], p, h => by cases h; exact Or.inl ⟨rfl, 0, rfl⟩
  | .start :: l, p, h => by cases h
  | .mid :: l, p, h => by
    rcases run_next_live (show run Phase.next .live l = some p from h) with ⟨hp, k, rfl⟩ | ⟨hp, k, rfl⟩
    · exact Or.inl ⟨hp, k + 1, rfl⟩
    · exact Or.inr ⟨hp, k + 1, rfl⟩
  | .stop :: l, p, h => by
    obtain ⟨rfl, rfl⟩ := run_next_over (show run Phase.next .over l = some p from h)
    exact Or.inr ⟨rfl, 0, rfl⟩

/-- **The shape of a lifecycle**: nothing, a start and what followed it, or all of it up to the stop. -/
theorem run_next_fresh {p : Phase} (h : run Phase.next .fresh l = some p) :
    (p = .fresh ∧ l = []) ∨ (p = .live ∧ ∃ k, l = .start :: List.replicate k .mid) ∨
      (p = .over ∧ ∃ k, l = .start :: (List.replicate k .mid ++ [.stop])) := by
  cases l with
  | nil => cases h; exact Or.inl ⟨rfl, rfl⟩
  | cons m l =>
    cases m with
    | start =>
      rcases run_next_live (show run Phase.next .live l = some p from h) with ⟨hp, k, rfl⟩ | ⟨hp, k, rfl⟩
      · exact Or.inr (Or.inl ⟨hp, k, rfl⟩)
      · exact Or.inr (Or.inr ⟨hp, k, rfl⟩)
    | mid => cases h
    | stop => cases h

/-- One start, then anything in between, then one stop. -/
def Whole (l : List Mark) : Prop := ∃ k, l = .start :: (List.replicate k .mid ++ [.stop])

theorem run_whole (k : Nat) : run Phase.next .fresh (.start :: (List.replicate k .mid ++ [.stop])) = some .over := by
  show run Phase.next .live (List.replicate k .mid ++ [.stop]) = some .over
  induction k with
  | zero => rfl
  | succ k ih => exact ih

/-- **A list of marks runs exactly when it begins a whole lifecycle.** -/
theorem run_fresh_isSome : (run Phase.next .fresh l).isSome ↔ ∃ w, Whole w ∧ l <+: w := by
  constructor
  · intro h
    obtain ⟨p, hp⟩ := Option.isSome_iff_exists.1 h
    rcases run_next_fresh hp with ⟨-, rfl⟩ | ⟨-, k, rfl⟩ | ⟨-, k, rfl⟩
    · exact ⟨_, ⟨0, rfl⟩, List.nil_prefix⟩
    · exact ⟨_, ⟨k, rfl⟩, List.prefix_append _ _⟩
    · exact ⟨_, ⟨k, rfl⟩, List.prefix_rfl⟩
  · rintro ⟨_, ⟨k, rfl⟩, rest, hl⟩
    obtain ⟨p, hp, -⟩ := run_append_some (hl ▸ run_whole k)
    rw [hp]
    rfl

/-- What runs and is not live has not started, or is whole. -/
theorem whole_of_run {p : Phase} (h : run Phase.next .fresh l = some p) (hp : p ≠ .live) :
    l = [] ∨ Whole l := by
  rcases run_next_fresh h with ⟨-, hl⟩ | ⟨hlive, -⟩ | ⟨-, hl⟩
  · exact Or.inl hl
  · exact absurd hlive hp
  · exact Or.inr hl

end Lib
end OpenLogi
