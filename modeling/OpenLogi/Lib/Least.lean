import Mathlib.Data.List.Basic
/-!
# Least — the first element of a list with the least key

Ties go to the earlier element.  In a list sorted by the key it is the first one.
-/
namespace OpenLogi
namespace Lib

variable {α : Type}

def minByKey (key : α → Nat) : List α → Option α
  | [] => none
  | a :: l =>
    match minByKey key l with
    | none => some a
    | some b => if key a ≤ key b then some a else some b

variable {key : α → Nat}

theorem mem_of_minByKey : ∀ {l : List α} {a : α}, minByKey key l = some a → a ∈ l
  | b :: l, a, h => by
    unfold minByKey at h
    split at h
    · cases h
      exact List.mem_cons_self
    · rename_i c hc
      split at h
      · cases h
        exact List.mem_cons_self
      · cases h
        exact List.mem_cons_of_mem b (mem_of_minByKey hc)

theorem minByKey_eq_none : ∀ {l : List α}, minByKey key l = none ↔ l = []
  | [] => iff_of_true rfl rfl
  | a :: l => by
    refine iff_of_false (fun h => ?_) (List.cons_ne_nil a l)
    unfold minByKey at h
    split at h
    · cases h
    · split at h <;> cases h

/-- The first two elements compete before the rest. -/
theorem minByKey_cons_cons (key : α → Nat) (a b : α) (l : List α) :
    minByKey key (a :: b :: l) = minByKey key ((if key b < key a then b else a) :: l) := by
  simp only [minByKey]
  cases minByKey key l with
  | none =>
    by_cases h : key b < key a
    · simp [h, Nat.not_le.2 h]
    · simp [h, Nat.not_lt.1 h]
  | some c =>
    by_cases h : key b < key a
    · by_cases hc : key b ≤ key c
      · simp [h, hc, Nat.not_le.2 h]
      · have hca : ¬key a ≤ key c := by omega
        simp [h, hc, hca]
    · by_cases hc : key b ≤ key c
      · have hac : key a ≤ key c := by omega
        simp [h, hc, hac, Nat.not_lt.1 h]
      · simp [h, hc]

/-- **In a sorted list the first element is the least.** -/
theorem minByKey_of_sorted {a : α} {l : List α} (h : (a :: l).Pairwise fun x y => key x ≤ key y) :
    minByKey key (a :: l) = some a := by
  unfold minByKey
  split
  · rfl
  · rename_i b hb
    rw [if_pos ((List.pairwise_cons.1 h).1 b (mem_of_minByKey hb))]

end Lib
end OpenLogi
