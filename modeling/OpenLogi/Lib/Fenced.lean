import Mathlib.Data.List.Basic
/-!
# Fenced — requests that count only under the token they were made with

A party holds at most one token and waits for at most one answer.  A request carries the token it was made with, and
its answer is taken only while that token is still the one held: whoever changes the token need not find the requests
under way, and the party waits for exactly the request that is under way and carries its token (`Held`).
-/
namespace OpenLogi
namespace Lib

variable {C T : Type}

/-- The requests under way with the token that is held are the one waited for. -/
def Held (token : C → T) (pending : List C) (held : Option T) (waiting : Option C) : Prop :=
  ∀ c, c ∈ pending ∧ held = some (token c) ↔ waiting = some c

namespace Held

variable {token : C → T} {pending : List C} {held : Option T} {c : C}

theorem under_way (h : Held token pending held (some c)) : c ∈ pending ∧ held = some (token c) := (h c).2 rfl

/-- With nothing waited for, a request may be made with the token that is held. -/
theorem ask (h : Held token pending held none) (hc : held = some (token c)) :
    Held token (c :: pending) held (some c) := by
  intro d
  rw [List.mem_cons, Option.some.injEq]
  constructor
  · rintro ⟨rfl | hd, ht⟩
    · rfl
    · cases (h d).1 ⟨hd, ht⟩
  · rintro rfl
    exact ⟨Or.inl rfl, hc⟩

/-- Once the one waited for is answered, nothing is. -/
theorem answer [DecidableEq C] (h : Held token pending held (some c)) :
    Held token (pending.filter (· ≠ c)) held none := by
  intro d
  constructor
  · rintro ⟨hd, ht⟩
    rw [List.mem_filter, decide_eq_true_eq] at hd
    exact absurd (Option.some.inj ((h d).1 ⟨hd.1, ht⟩)).symm hd.2
  · intro hd
    cases hd

/-- The answer to a request that is not waited for is one less under way. -/
theorem skip [DecidableEq C] {waiting : Option C} (h : Held token pending held waiting) (hc : waiting ≠ some c) :
    Held token (pending.filter (· ≠ c)) held waiting := by
  intro d
  rw [List.mem_filter, decide_eq_true_eq, and_assoc, and_comm (a := d ≠ c), ← and_assoc, h d]
  refine and_iff_left_of_imp ?_
  rintro hd rfl
  exact hc hd

/-- Whoever gives its token up waits for nothing. -/
theorem drop (token : C → T) (pending : List C) : Held token pending none none := by
  intro d
  constructor
  · rintro ⟨-, ht⟩
    cases ht
  · intro hd
    cases hd

/-- A token no request under way carries. -/
theorem renew {t : T} (h : ∀ d ∈ pending, token d ≠ t) : Held token pending (some t) none := by
  intro d
  constructor
  · rintro ⟨hd, ht⟩
    exact absurd (Option.some.inj ht).symm (h d hd)
  · intro hd
    cases hd

end Held

end Lib
end OpenLogi
