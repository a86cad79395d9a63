import Mathlib.Data.List.Basic
/-!
# Sweep — folds over rows, each of which touches its own key

A fold whose steps each change one key is, seen at a key, the fold of that key's rows alone.
-/
namespace OpenLogi
namespace Lib

variable {σ α τ : Type}

theorem foldl_keeps {f : σ → α → σ} (P : σ → Prop) (hf : ∀ s a, P s → P (f s a)) :
    ∀ (l : List α) (s : σ), P s → P (l.foldl f s)
  | [], _, h => h
  | a :: l, s, h => foldl_keeps P hf l (f s a) (hf s a h)

/-- **A sweep, seen at one key**: where a step of another key shows nothing, only the key's own rows are folded. -/
theorem foldl_view {f : σ → α → σ} {g : τ → α → τ} (view : σ → τ) (own : α → Bool) (P : σ → Prop)
    (hP : ∀ s a, P s → P (f s a)) (hf : ∀ s a, P s → view (f s a) = if own a then g (view s) a else view s) :
    ∀ (l : List α) (s : σ), P s → view (l.foldl f s) = (l.filter own).foldl g (view s)
  | [], _, _ => rfl
  | a :: l, s, h => by
    rw [List.foldl_cons, foldl_view view own P hP hf l (f s a) (hP s a h), hf s a h]
    cases ha : own a with
    | true => rw [List.filter_cons_of_pos ha, List.foldl_cons, if_pos rfl]
    | false => rw [List.filter_cons_of_neg (by simp [ha]), if_neg (by simp)]

/-- Some row of a list, told with the rows before it. -/
def Somewhere (P : List α → α → Prop) (l : List α) : Prop := ∃ pre x post, l = pre ++ x :: post ∧ P pre x

theorem not_somewhere_nil (P : List α → α → Prop) : ¬Somewhere P [] := by
  rintro ⟨pre, x, post, h, -⟩
  cases pre <;> cases h

theorem somewhere_concat (P : List α → α → Prop) (l : List α) (a : α) :
    Somewhere P (l ++ [a]) ↔ Somewhere P l ∨ P l a := by
  constructor
  · rintro ⟨pre, x, post, h, hp⟩
    rcases List.eq_nil_or_concat post with rfl | ⟨post, b, rfl⟩
    · obtain ⟨rfl, hx⟩ := List.append_inj' h rfl
      cases hx
      exact Or.inr hp
    · rw [List.concat_eq_append, ← List.cons_append, ← List.append_assoc] at h
      exact Or.inl ⟨pre, x, post, (List.append_inj' h rfl).1, hp⟩
  · rintro (⟨pre, x, post, rfl, hp⟩ | hp)
    · exact ⟨pre, x, post ++ [a], by rw [List.append_assoc, List.cons_append], hp⟩
    · exact ⟨l, a, [], rfl, hp⟩

/-! ## Repeated rows -/

section Repeated

variable [DecidableEq α]

theorem nodup_eraseDups : ∀ l : List α, l.eraseDups.Nodup
  | [] => List.nodup_nil
  | a :: l => by
    rw [List.eraseDups_cons, List.nodup_cons, List.mem_eraseDups, List.mem_filter]
    exact ⟨fun h => by simp at h, nodup_eraseDups (l.filter fun b => !b == a)⟩
termination_by l => l.length
decreasing_by exact Nat.lt_succ_of_le (List.length_filter_le _ _)

/-- A row whose work is done may be left out. -/
theorem foldl_skip {f : σ → α → σ} {Done : σ → α → Prop} (hdone : ∀ s a, Done s a → f s a = s)
    (hkeep : ∀ s a b, Done s a → Done (f s b) a) {a : α} :
    ∀ (l : List α) (s : σ), Done s a → l.foldl f s = (l.filter fun b => !b == a).foldl f s
  | [], _, _ => rfl
  | b :: l, s, h => by
    rw [List.foldl_cons]
    by_cases hb : b = a
    · subst hb
      rw [hdone s b h, foldl_skip hdone hkeep l s h, List.filter_cons_of_neg (by simp)]
    · rw [foldl_skip hdone hkeep l (f s b) (hkeep s a b h), List.filter_cons_of_pos (by simpa using hb), List.foldl_cons]

/-- **Repeats change nothing** where the first of equal rows leaves no work to the others. -/
theorem foldl_eraseDups {f : σ → α → σ} (Done Idle : σ → α → Prop) (hdone : ∀ s a, Done s a → f s a = s)
    (hkeep : ∀ s a b, Done s a → Done (f s b) a) (hidle : ∀ s a b, Idle s a → Idle (f s b) a)
    (hfirst : ∀ s a, Idle s a → Done (f s a) a) :
    ∀ (l : List α) (s : σ), (∀ a, 2 ≤ l.count a → Idle s a) → l.foldl f s = l.eraseDups.foldl f s
  | [], _, _ => rfl
  | a :: l, s, h => by
    have hrest : ∀ b, 2 ≤ (l.filter fun b => !b == a).count b → Idle (f s a) b := by
      intro b hb
      have hle : (l.filter fun b => !b == a).count b ≤ l.count b := List.filter_sublist.count_le b
      exact hidle s b a (h b (Nat.le_trans (Nat.le_trans hb hle) List.count_le_count_cons))
    have hskip : l.foldl f (f s a) = (l.filter fun b => !b == a).foldl f (f s a) := by
      by_cases ha : a ∈ l
      · have hcount : 2 ≤ (a :: l).count a := by
          rw [List.count_cons_self]
          have := List.count_pos_iff.2 ha
          omega
        exact foldl_skip hdone hkeep l (f s a) (hfirst s a (h a hcount))
      · rw [List.filter_eq_self.2 fun b hb => by simpa using fun hba : b = a => ha (hba ▸ hb)]
    rw [List.foldl_cons, hskip, List.eraseDups_cons, List.foldl_cons,
      foldl_eraseDups Done Idle hdone hkeep hidle hfirst (l.filter fun b => !b == a) (f s a) hrest]
termination_by l => l.length
decreasing_by exact Nat.lt_succ_of_le (List.length_filter_le _ _)

end Repeated

end Lib
end OpenLogi
