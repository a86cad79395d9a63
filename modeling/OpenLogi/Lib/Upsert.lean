import Mathlib.Data.List.Nodup
/-!
# Upsert — rows that join the row of their key

A row joins the row of its key, or goes to the end when no row has it.  After a batch of them a key still has one row,
which is the join, in order, of everything the batch held for it.
-/
namespace OpenLogi
namespace Lib

variable {κ α : Type} [DecidableEq κ]

def upsert (key : α → κ) (join : α → α → α) (x : α) : List α → List α
  | [] => [x]
  | y :: ys => if key y = key x then join y x :: ys else y :: upsert key join x ys

def upserts (key : α → κ) (join : α → α → α) (l xs : List α) : List α :=
  xs.foldl (fun l x => upsert key join x l) l

/-- The row of a key. -/
def rowOf (key : α → κ) (k : κ) (l : List α) : Option α := l.find? fun x => key x = k

/-- The join of a row with the next one of its key. -/
def joined (join : α → α → α) (row : Option α) (x : α) : Option α := some (row.elim x (join · x))

variable {key : α → κ} {join : α → α → α}

@[simp] theorem upserts_nil (l : List α) : upserts key join l [] = l := rfl

@[simp] theorem upserts_cons (l : List α) (x : α) (xs : List α) :
    upserts key join l (x :: xs) = upserts key join (upsert key join x l) xs := rfl

theorem upserts_append (l xs ys : List α) :
    upserts key join l (xs ++ ys) = upserts key join (upserts key join l xs) ys :=
  List.foldl_append

theorem rowOf_cons_self (x : α) (xs : List α) : rowOf key (key x) (x :: xs) = some x :=
  List.find?_cons_of_pos (by simp)

theorem rowOf_cons_of_ne {k : κ} {x : α} (h : key x ≠ k) (xs : List α) : rowOf key k (x :: xs) = rowOf key k xs :=
  List.find?_cons_of_neg (by simpa using h)

theorem rowOf_of_mem : ∀ {l : List α} {x : α}, (l.map key).Nodup → x ∈ l → rowOf key (key x) l = some x
  | y :: ys, x, h, hx => by
    rw [List.map_cons, List.nodup_cons] at h
    rcases List.mem_cons.1 hx with rfl | hx
    · exact rowOf_cons_self x ys
    · have hne : key y ≠ key x := fun hyx => h.1 (hyx ▸ List.mem_map_of_mem hx)
      rw [rowOf_cons_of_ne hne, rowOf_of_mem h.2 hx]

section
variable (hjoin : ∀ x y, key x = key y → key (join x y) = key y)
include hjoin

theorem mem_keys_upsert (x : α) (k : κ) : ∀ l : List α, k ∈ (upsert key join x l).map key ↔ k = key x ∨ k ∈ l.map key
  | [] => by simp [upsert]
  | y :: ys => by
    unfold upsert
    split
    · rename_i hy
      rw [List.map_cons, List.mem_cons, hjoin y x hy, List.map_cons, List.mem_cons, hy]
      exact ⟨fun h => h.imp_right Or.inr, fun h => h.elim Or.inl id⟩
    · rw [List.map_cons, List.mem_cons, mem_keys_upsert x k ys, List.map_cons, List.mem_cons, or_left_comm]

theorem mem_keys_upserts (k : κ) : ∀ xs l : List α,
    k ∈ (upserts key join l xs).map key ↔ k ∈ l.map key ∨ k ∈ xs.map key
  | [], l => by simp
  | x :: xs, l => by
    rw [upserts_cons, mem_keys_upserts k xs, mem_keys_upsert hjoin, List.map_cons, List.mem_cons, or_assoc,
      or_left_comm]

theorem nodup_upsert (x : α) : ∀ {l : List α}, (l.map key).Nodup → ((upsert key join x l).map key).Nodup
  | [], _ => by simp [upsert]
  | y :: ys, h => by
    rw [List.map_cons, List.nodup_cons] at h
    unfold upsert
    split
    · rename_i hy
      rw [List.map_cons, List.nodup_cons, hjoin y x hy, ← hy]
      exact h
    · rename_i hy
      rw [List.map_cons, List.nodup_cons, mem_keys_upsert hjoin, not_or]
      exact ⟨⟨hy, h.1⟩, nodup_upsert x h.2⟩

/-- **A batch leaves one row to a key.** -/
theorem nodup_upserts : ∀ (xs : List α) {l : List α}, (l.map key).Nodup → ((upserts key join l xs).map key).Nodup
  | [], _, h => h
  | x :: xs, _, h => nodup_upserts xs (nodup_upsert hjoin x h)

theorem rowOf_upsert_self (x : α) : ∀ l : List α,
    rowOf key (key x) (upsert key join x l) = joined join (rowOf key (key x) l) x
  | [] => rowOf_cons_self x []
  | y :: ys => by
    unfold upsert
    split
    · rename_i hy
      rw [← hy, rowOf_cons_self y ys, hy, ← hjoin y x hy, rowOf_cons_self]
      rfl
    · rename_i hy
      rw [rowOf_cons_of_ne hy, rowOf_cons_of_ne hy, rowOf_upsert_self x ys]

theorem rowOf_upsert_of_ne {x : α} {k : κ} (hk : key x ≠ k) : ∀ l : List α,
    rowOf key k (upsert key join x l) = rowOf key k l
  | [] => rowOf_cons_of_ne hk []
  | y :: ys => by
    unfold upsert
    split
    · rename_i hy
      rw [rowOf_cons_of_ne (by rwa [hjoin y x hy]), rowOf_cons_of_ne (by rwa [hy])]
    · by_cases hyk : key y = k
      · subst hyk
        rw [rowOf_cons_self, rowOf_cons_self]
      · rw [rowOf_cons_of_ne hyk, rowOf_cons_of_ne hyk, rowOf_upsert_of_ne hk ys]

/-- **The row of a key is the join, in order, of all the batch held for it.** -/
theorem rowOf_upserts (k : κ) : ∀ xs l : List α,
    rowOf key k (upserts key join l xs) = (xs.filter fun x => key x = k).foldl (joined join) (rowOf key k l)
  | [], _ => rfl
  | x :: xs, l => by
    rw [upserts_cons, rowOf_upserts k xs]
    by_cases hk : key x = k
    · subst hk
      rw [rowOf_upsert_self hjoin, List.filter_cons_of_pos (by simp), List.foldl_cons]
    · rw [rowOf_upsert_of_ne hjoin hk, List.filter_cons_of_neg (by simpa using hk)]

/-- What a join holds exactly when one of its rows does, the row of a key holds exactly when a row of the batch or the
old row of the key does. -/
theorem exists_mem_upsert {p : α → Prop} (hp : ∀ x y, key x = key y → (p (join x y) ↔ p x ∨ p y)) (x : α) (k : κ) :
    ∀ l : List α, (∃ r ∈ upsert key join x l, key r = k ∧ p r) ↔ (∃ r ∈ l, key r = k ∧ p r) ∨ key x = k ∧ p x
  | [] => by simp [upsert]
  | y :: ys => by
    unfold upsert
    split
    · rename_i hy
      rw [List.exists_mem_cons_iff, List.exists_mem_cons_iff, hjoin y x hy, hp y x hy, hy, and_or_left, or_assoc,
        or_assoc]
      exact or_congr_right or_comm
    · rw [List.exists_mem_cons_iff, List.exists_mem_cons_iff, exists_mem_upsert hp x k ys, or_assoc]

theorem exists_mem_upserts {p : α → Prop} (hp : ∀ x y, key x = key y → (p (join x y) ↔ p x ∨ p y)) (k : κ) :
    ∀ xs l : List α, (∃ r ∈ upserts key join l xs, key r = k ∧ p r) ↔
      (∃ r ∈ l, key r = k ∧ p r) ∨ ∃ x ∈ xs, key x = k ∧ p x
  | [], l => by simp
  | x :: xs, l => by
    rw [upserts_cons, exists_mem_upserts hp k xs, exists_mem_upsert hjoin hp, List.exists_mem_cons_iff, or_assoc]

end

/-- Where a row replaces the one before it, a key has the last row of the batch. -/
theorem foldl_joined_last (row : Option α) : ∀ xs : List α,
    xs.foldl (joined fun _ x => x) row = xs.getLast?.or row
  | [] => rfl
  | [x] => by cases row <;> rfl
  | x :: y :: xs => by
    rw [List.foldl_cons, foldl_joined_last _ (y :: xs), List.getLast?_cons_cons, List.getLast?_cons]
    rfl

end Lib
end OpenLogi
