import Mathlib.Data.List.Nodup
/-!
# Memory — a bounded map that forgets its oldest entries

A map and the order its keys came in.  `remember` adds an entry and, past the cap, forgets the oldest.  As long as a key
comes back only after it is forgotten, the map holds exactly the last `cap` entries that came (`Recent`).
-/
namespace OpenLogi
namespace Lib

variable {κ α β : Type}

/-- The last `n` of a list. -/
def lastOf (n : Nat) (l : List β) : List β := l.drop (l.length - n)

@[simp] theorem length_lastOf (n : Nat) (l : List β) : (lastOf n l).length = min n l.length := by
  simp only [lastOf, List.length_drop]
  omega

variable {n : Nat} {l : List β}

theorem lastOf_of_le (h : l.length ≤ n) : lastOf n l = l := by
  rw [lastOf, Nat.sub_eq_zero_of_le h, List.drop_zero]

/-- One more entry, while there is room. -/
theorem lastOf_concat_of_lt (b : β) (h : l.length < n) :
    lastOf n (l ++ [b]) = lastOf n l ++ [b] := by
  have hfits : (l ++ [b]).length ≤ n := by
    rw [List.length_append, List.length_singleton]
    omega
  rw [lastOf_of_le hfits, lastOf_of_le (by omega)]

/-- One more entry, at the cap: the oldest gives way. -/
theorem lastOf_concat_of_le (b : β) (h : n ≤ l.length) (hn : 0 < n) :
    lastOf n (l ++ [b]) = (lastOf n l).tail ++ [b] := by
  have hdrop : (l ++ [b]).length - n = l.length - n + 1 := by
    simp only [List.length_append, List.length_singleton]
    omega
  rw [lastOf, hdrop, List.drop_append_of_le_length (by omega), lastOf, List.tail_drop]

theorem mem_lastOf_concat (hn : 0 < n) (l : List β) (b : β) : b ∈ lastOf n (l ++ [b]) := by
  by_cases h : l.length < n
  · rw [lastOf_concat_of_lt b h]
    exact List.mem_append_right _ (List.mem_singleton_self b)
  · rw [lastOf_concat_of_le b (by omega) hn]
    exact List.mem_append_right _ (List.mem_singleton_self b)

structure Memory (κ α : Type) where
  entries : κ → Option α
  order : List κ

namespace Memory

variable [DecidableEq κ]

def empty : Memory κ α := ⟨fun _ => none, []⟩

/-- Forget the oldest entry once there are more than `cap`. -/
def evict (cap : Nat) (m : Memory κ α) : Memory κ α :=
  match m.order with
  | [] => m
  | oldest :: order => if cap < m.order.length then ⟨Function.update m.entries oldest none, order⟩ else m

def remember (cap : Nat) (k : κ) (a : α) (m : Memory κ α) : Memory κ α :=
  evict cap ⟨Function.update m.entries k (some a), m.order ++ [k]⟩

variable {m : Memory κ α} {cap : Nat}

theorem remember_eq (cap : Nat) {k oldest : κ} (a : α) {rest : List κ} (h : m.order ++ [k] = oldest :: rest) :
    m.remember cap k a =
      if cap < (oldest :: rest).length then
        ⟨Function.update (Function.update m.entries k (some a)) oldest none, rest⟩
      else ⟨Function.update m.entries k (some a), oldest :: rest⟩ := by
  simp only [remember, evict, h]

/-- What is found under another key was there before. -/
theorem remember_of_ne {k k' : κ} {a b : α} (hne : k' ≠ k) (h : (m.remember cap k a).entries k' = some b) :
    m.entries k' = some b := by
  obtain ⟨oldest, rest, horder⟩ := List.exists_cons_of_ne_nil (List.concat_ne_nil k m.order)
  rw [remember_eq cap a horder] at h
  split at h
  · by_cases ho : k' = oldest
    · subst ho
      simp at h
    · simpa [ho, hne] using h
  · simpa [hne] using h

theorem remember_some {k k' : κ} {a b : α} (h : (m.remember cap k a).entries k' = some b) :
    m.entries k' = some b ∨ b = a := by
  by_cases hk : k' = k
  · subst hk
    right
    obtain ⟨oldest, rest, horder⟩ := List.exists_cons_of_ne_nil (List.concat_ne_nil k' m.order)
    rw [remember_eq cap a horder] at h
    split at h
    · by_cases ho : k' = oldest
      · subst ho
        simp at h
      · simpa [ho, eq_comm] using h
    · simpa [eq_comm] using h
  · exact .inl (remember_of_ne hk h)

/-- The map and the order hold the same keys, each once and at most `cap` of them. -/
structure Kept (cap : Nat) (m : Memory κ α) : Prop where
  nodup : m.order.Nodup
  same : ∀ k, (m.entries k).isSome = true ↔ k ∈ m.order
  atMost : m.order.length ≤ cap

/-- The memory holds the last `cap` entries of `log`. -/
structure Recent (cap : Nat) (m : Memory κ α) (log : List (κ × α)) : Prop where
  nodup : m.order.Nodup
  order : m.order = (lastOf cap log).map Prod.fst
  entries : ∀ k a, m.entries k = some a ↔ (k, a) ∈ lastOf cap log

omit [DecidableEq κ] in
theorem recent_empty (cap : Nat) : Recent cap (empty : Memory κ α) [] :=
  ⟨List.nodup_nil, by simp [empty, lastOf], fun k a => by simp [empty, lastOf]⟩

omit [DecidableEq κ] in
/-- **Holding the last entries keeps the map and the order in step.** -/
theorem Recent.kept {log : List (κ × α)} (h : Recent cap m log) : Kept cap m := by
  refine ⟨h.nodup, fun k => ?_, ?_⟩
  · rw [h.order, Option.isSome_iff_exists]
    simp [h.entries]
  · have hlen : m.order.length = min cap log.length := by rw [h.order, List.length_map, length_lastOf]
    omega

omit [DecidableEq κ] in
theorem Kept.none_iff (h : Kept cap m) {k : κ} : m.entries k = none ↔ k ∉ m.order := by
  rw [← h.same, Bool.not_eq_true, Option.isSome_eq_false_iff, Option.isNone_iff_eq_none]

/-- **A new key is remembered, and only the oldest entry can give way to it.** -/
theorem Recent.remember {log : List (κ × α)} (h : Recent cap m log) (hcap : 0 < cap) {k : κ} (hk : k ∉ m.order)
    (a : α) : Recent cap (m.remember cap k a) (log ++ [(k, a)]) := by
  have hlen : m.order.length = min cap log.length := by rw [h.order, List.length_map, length_lastOf]
  have hnodup : (m.order ++ [k]).Nodup := by
    rw [List.nodup_append]
    exact ⟨h.nodup, List.nodup_singleton k, fun x hx y hy => by
      rw [List.mem_singleton.1 hy]
      exact fun he => hk (he ▸ hx)⟩
  by_cases hroom : log.length < cap
  · -- there is room: nothing is forgotten
    have hstays : m.remember cap k a = ⟨Function.update m.entries k (some a), m.order ++ [k]⟩ := by
      obtain ⟨x, xs, hx⟩ := List.exists_cons_of_ne_nil (List.concat_ne_nil k m.order)
      have hfits : ¬ cap < (x :: xs).length := by
        rw [← hx, List.length_append, List.length_singleton]
        omega
      rw [remember_eq cap a hx, if_neg hfits, hx]
    rw [hstays]
    refine ⟨hnodup, ?_, fun k' a' => ?_⟩
    · show m.order ++ [k] = _
      rw [lastOf_concat_of_lt _ hroom, List.map_append, h.order]
      rfl
    · show Function.update m.entries k (some a) k' = some a' ↔ _
      rw [lastOf_concat_of_lt _ hroom, List.mem_append, List.mem_singleton]
      by_cases hk' : k' = k
      · subst hk'
        have hnone : (k', a') ∉ lastOf cap log := fun hm => hk (by
          rw [h.order]
          exact List.mem_map_of_mem hm)
        simp [hnone, eq_comm]
      · simp [h.entries, hk']
  · -- the memory is full: its oldest entry gives way
    obtain ⟨⟨oldest, gone⟩, rest, hlast⟩ : ∃ x rest, lastOf cap log = x :: rest := by
      cases hl : lastOf cap log with
      | nil =>
        have := congrArg List.length hl
        rw [length_lastOf] at this
        simp only [List.length_nil] at this
        omega
      | cons x rest => exact ⟨x, rest, rfl⟩
    have horder : m.order = oldest :: rest.map Prod.fst := by rw [h.order, hlast]; rfl
    have hold : oldest ≠ k := fun he => hk (by rw [horder, ← he]; exact List.mem_cons_self)
    have hforgets : m.remember cap k a =
        ⟨Function.update (Function.update m.entries k (some a)) oldest none, rest.map Prod.fst ++ [k]⟩ := by
      have hcons : m.order ++ [k] = oldest :: (rest.map Prod.fst ++ [k]) := by rw [horder, List.cons_append]
      have hlong : cap < (oldest :: (rest.map Prod.fst ++ [k])).length := by
        rw [← hcons, List.length_append, List.length_singleton]
        omega
      rw [remember_eq cap a hcons, if_pos hlong]
    have hnew : lastOf cap (log ++ [(k, a)]) = rest ++ [(k, a)] := by
      rw [lastOf_concat_of_le _ (by omega) hcap, hlast]
      rfl
    rw [horder] at hnodup
    have holdgone : oldest ∉ rest.map Prod.fst := fun hm =>
      (List.nodup_cons.1 hnodup).1 (List.mem_append_left _ hm)
    rw [hforgets]
    refine ⟨(List.nodup_cons.1 hnodup).2, by rw [hnew, List.map_append]; rfl, fun k' a' => ?_⟩
    show Function.update (Function.update m.entries k (some a)) oldest none k' = some a' ↔ _
    rw [hnew, List.mem_append, List.mem_singleton]
    by_cases ho : k' = oldest
    · subst ho
      have hno : (k', a') ∉ rest := fun hm => holdgone (List.mem_map_of_mem hm)
      simp [hno, hold]
    · rw [Function.update_of_ne ho]
      by_cases hk' : k' = k
      · subst hk'
        have hno : (k', a') ∉ rest := fun hm => hk (by
          rw [horder]
          exact List.mem_cons_of_mem _ (List.mem_map_of_mem hm))
        simp [hno, eq_comm]
      · rw [Function.update_of_ne hk', h.entries, hlast]
        simp [ho, hk']

end Memory

end Lib
end OpenLogi
