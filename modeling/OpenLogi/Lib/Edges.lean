import Mathlib.Logic.Function.Basic
/-!
# Edges — signals of two levels, as a list of their changes

Each change names a signal and its new level.  `Flips` is a list in which every change is an edge: from the start
levels on, no change repeats the level its signal has.
-/
namespace OpenLogi
namespace Lib

variable {κ ε : Type} [DecidableEq κ]

section
variable (key : ε → κ) (level : ε → Bool)

/-- The levels after the changes of a list. -/
def levels (f : κ → Bool) (l : List ε) : κ → Bool := l.foldl (fun f e => Function.update f (key e) (level e)) f

def Flips : (κ → Bool) → List ε → Prop
  | _, [] => True
  | f, e :: es => level e = !f (key e) ∧ Flips (Function.update f (key e) (level e)) es

end

/-- From level `b` on, the levels of a list go up and down in turn. -/
def Alternates : Bool → List Bool → Prop
  | _, [] => True
  | b, x :: xs => x = !b ∧ Alternates x xs

variable {key : ε → κ} {level : ε → Bool}

@[simp] theorem levels_nil (f : κ → Bool) : levels key level f [] = f := rfl

@[simp] theorem levels_cons (f : κ → Bool) (e : ε) (es : List ε) :
    levels key level f (e :: es) = levels key level (Function.update f (key e) (level e)) es := rfl

theorem levels_append (f : κ → Bool) (xs ys : List ε) :
    levels key level f (xs ++ ys) = levels key level (levels key level f xs) ys :=
  List.foldl_append

theorem flips_append : ∀ (xs ys : List ε) (f : κ → Bool),
    Flips key level f (xs ++ ys) ↔ Flips key level f xs ∧ Flips key level (levels key level f xs) ys
  | [], ys, f => by simp [Flips]
  | x :: xs, ys, f => by
    rw [List.cons_append, Flips, Flips, flips_append xs ys, levels_cons, and_assoc]

/-- **Every change is an edge exactly when the changes of each signal go up and down in turn.** -/
theorem flips_iff_alternates : ∀ (l : List ε) (f : κ → Bool),
    Flips key level f l ↔ ∀ k, Alternates (f k) ((l.filter fun e => key e = k).map level)
  | [], f => by simp [Flips, Alternates]
  | e :: es, f => by
    rw [Flips, flips_iff_alternates es]
    constructor
    · rintro ⟨he, h⟩ k
      have hk := h k
      by_cases hek : key e = k
      · subst hek
        rw [Function.update_self] at hk
        simpa [Alternates, he] using hk
      · rw [Function.update_of_ne (Ne.symm hek)] at hk
        simpa [hek] using hk
    · intro h
      have he := h (key e)
      simp only [decide_true, List.filter_cons_of_pos, List.map_cons, Alternates] at he
      refine ⟨he.1, fun k => ?_⟩
      by_cases hek : key e = k
      · subst hek
        rw [Function.update_self]
        exact he.2
      · rw [Function.update_of_ne (Ne.symm hek)]
        have hk := h k
        simpa [hek] using hk

/-- The level of a signal that no change of a list names. -/
theorem levels_of_not_mem : ∀ (l : List ε) (f : κ → Bool) (k : κ), k ∉ l.map key → levels key level f l k = f k
  | [], _, _, _ => rfl
  | e :: es, f, k, h => by
    rw [List.map_cons, List.mem_cons, not_or] at h
    rw [levels_cons, levels_of_not_mem es _ k h.2, Function.update_of_ne h.1]

/-- Changes to one level leave it at each signal they name. -/
theorem levels_of_level {b : Bool} : ∀ (l : List ε) (f : κ → Bool), (∀ e ∈ l, level e = b) → ∀ k,
    levels key level f l k = if k ∈ l.map key then b else f k
  | [], _, _, _ => by simp
  | e :: es, f, h, k => by
    rw [levels_cons, levels_of_level es _ (fun e' he' => h e' (List.mem_cons_of_mem e he')) k, List.map_cons]
    by_cases hk : k = key e
    · subst hk
      rw [Function.update_self, h e List.mem_cons_self]
      simp
    · rw [Function.update_of_ne hk]
      simp [hk]

/-- Changes of distinct signals are edges when each differs from the start level. -/
theorem flips_of_nodup : ∀ (l : List ε) (f : κ → Bool), (l.map key).Nodup → (∀ e ∈ l, level e = !f (key e)) →
    Flips key level f l
  | [], _, _, _ => trivial
  | e :: es, f, hnd, h => by
    rw [List.map_cons, List.nodup_cons] at hnd
    refine ⟨h e List.mem_cons_self, flips_of_nodup es _ hnd.2 fun e' he' => ?_⟩
    have hne : key e' ≠ key e := fun heq => hnd.1 (heq ▸ List.mem_map_of_mem he')
    rw [Function.update_of_ne hne]
    exact h e' (List.mem_cons_of_mem e he')

/-- The level of a signal after the one change that names it. -/
theorem levels_of_mem : ∀ (l : List ε) (f : κ → Bool) (e : ε), (l.map key).Nodup → e ∈ l →
    levels key level f l (key e) = level e
  | [], _, _, _, h => by cases h
  | x :: xs, f, e, hnd, h => by
    rw [List.map_cons, List.nodup_cons] at hnd
    rw [levels_cons]
    rcases List.mem_cons.1 h with rfl | h
    · rw [levels_of_not_mem xs _ _ hnd.1, Function.update_self]
    · exact levels_of_mem xs _ e hnd.2 h

end Lib
end OpenLogi
