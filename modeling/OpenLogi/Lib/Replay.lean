import OpenLogi.Lib.Run
/-!
# Replay — changes made again over a state that has some of them

Changes fold over a state.  Where a list of changes made twice in a row shows what it shows once, a list can be made
over a state that already has its first part.  A register, a part of the state that a change either sets or leaves
alone, is always so; what depends on the rest of the state needs an argument of its own.
-/
namespace OpenLogi
namespace Lib

variable {σ ε β : Type}

/-- The lists that, made a second time, show nothing new. -/
def Replayable (step : σ → ε → σ) (xs : List ε) : Prop :=
  ∀ s, xs.foldl step (xs.foldl step s) = xs.foldl step s

variable {step : σ → ε → σ}

/-- **A landed part is absorbed**: the whole list over the state its first part left. -/
theorem Replayable.absorbs {xs : List ε} (h : Replayable step xs) (ys : List ε) (s : σ) :
    (xs ++ ys).foldl step (xs.foldl step s) = (xs ++ ys).foldl step s := by
  rw [List.foldl_append, h s, ← List.foldl_append]

/-- A change sets `f` to the value `set` names, or leaves it. -/
def Register (step : σ → ε → σ) (f : σ → β) (set : ε → Option β) : Prop :=
  ∀ s e, f (step s e) = (set e).getD (f s)

/-- The last value named is the register's, and without one it keeps its own. -/
theorem Register.foldl {f : σ → β} {set : ε → Option β} (h : Register step f set) :
    ∀ xs : List ε, ∃ last : Option β, ∀ s, f (xs.foldl step s) = last.getD (f s)
  | [] => ⟨none, fun _ => rfl⟩
  | e :: xs => by
    obtain ⟨last, hlast⟩ := Register.foldl h xs
    refine ⟨last.or (set e), fun s => ?_⟩
    rw [List.foldl_cons, hlast, h]
    cases last with
    | none => rfl
    | some b => rfl

theorem Register.replay {f : σ → β} {set : ε → Option β} (h : Register step f set) (xs : List ε) (s : σ) :
    f (xs.foldl step (xs.foldl step s)) = f (xs.foldl step s) := by
  obtain ⟨last, hlast⟩ := h.foldl xs
  rw [hlast, hlast]
  cases last with
  | none => rfl
  | some b => rfl

/-- What no change sets, no list of changes does. -/
theorem Register.foldl_of_none {f : σ → β} (h : Register step f fun _ => none) (xs : List ε) (s : σ) :
    f (xs.foldl step s) = f s := by
  induction xs generalizing s with
  | nil => rfl
  | cons e xs ih => rw [List.foldl_cons, ih, h, Option.getD_none]

end Lib
end OpenLogi
