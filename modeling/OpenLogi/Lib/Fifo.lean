import Mathlib.Data.List.Basic
/-!
# Fifo — who is ahead of whom in a queue

A queue grows at its end and is served at its head.  Whatever is ahead of all of a kind stays ahead of it until it is
served itself.
-/
namespace OpenLogi
namespace Lib

variable {α : Type} {p q : α → Prop}

/-- An element that satisfies `p` is in the queue, and none that satisfies `q` is served before it. -/
def Ahead (p q : α → Prop) : List α → Prop
  | [] => False
  | x :: xs => p x ∨ ¬q x ∧ Ahead p q xs

variable {xs : List α}

theorem Ahead.append (h : Ahead p q xs) (ys : List α) : Ahead p q (xs ++ ys) := by
  induction xs with
  | nil => cases h
  | cons x xs ih =>
    rcases h with h | ⟨hx, h⟩
    · exact .inl h
    · exact .inr ⟨hx, ih h⟩

theorem Ahead.exists (h : Ahead p q xs) : ∃ x ∈ xs, p x := by
  induction xs with
  | nil => cases h
  | cons x xs ih =>
    rcases h with h | ⟨_, h⟩
    · exact ⟨x, List.mem_cons_self, h⟩
    · obtain ⟨y, hy, hpy⟩ := ih h
      exact ⟨y, List.mem_cons_of_mem x hy, hpy⟩

/-- Where nothing satisfies `q`, everything is ahead of it. -/
theorem ahead_of_mem {x : α} (hx : x ∈ xs) (hp : p x) (hq : ∀ y ∈ xs, ¬q y) : Ahead p q xs := by
  induction xs with
  | nil => cases hx
  | cons y ys ih =>
    rcases List.mem_cons.1 hx with rfl | hx
    · exact .inl hp
    · exact .inr ⟨hq y List.mem_cons_self, ih hx fun z hz => hq z (List.mem_cons_of_mem y hz)⟩

/-- **What is served first is ahead, or leaves the others ahead.** -/
theorem Ahead.serve {x : α} (h : Ahead p q (x :: xs)) : p x ∨ Ahead p q xs :=
  h.imp_right And.right

theorem Ahead.head {x : α} (h : Ahead p q (x :: xs)) (hx : q x) : p x :=
  h.resolve_right fun h => h.1 hx

end Lib
end OpenLogi
