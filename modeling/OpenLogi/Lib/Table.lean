import Mathlib.Data.List.Perm.Basic
import Mathlib.Data.List.Nodup
/-!
# Table — a hash map whose values carry their key

Rows with distinct keys, in an order that means nothing: `rehash` may change it at any time, so a statement about every
run of a machine that may rehash is one about every iteration order.
-/
namespace OpenLogi
namespace Lib

variable {κ α : Type}

structure Table (key : α → κ) where
  rows : List α
  nodup : (rows.map key).Nodup

namespace Table

variable {key : α → κ}

instance : Membership α (Table key) := ⟨fun t a => a ∈ t.rows⟩

variable {t : Table key} {a : α} {p : α → Bool} {k : κ}

theorem ext {u : Table key} (h : t.rows = u.rows) : t = u := by
  cases t
  cases u
  cases h
  rfl

theorem mem_def : a ∈ t ↔ a ∈ t.rows := Iff.rfl

instance decidableForall {t : Table key} {p : α → Prop} [DecidablePred p] : Decidable (∀ a ∈ t, p a) :=
  inferInstanceAs (Decidable (∀ a ∈ t.rows, p a))

instance decidableExists {t : Table key} {p : α → Prop} [DecidablePred p] : Decidable (∃ a ∈ t, p a) :=
  inferInstanceAs (Decidable (∃ a ∈ t.rows, p a))

def empty (key : α → κ) : Table key := ⟨[], List.nodup_nil⟩

/-- The rows that satisfy `p`. -/
def filter (t : Table key) (p : α → Bool) : Table key := ⟨t.rows.filter p, t.nodup.sublist (List.filter_sublist.map _)⟩

/-- Every row changed, its key kept. -/
def map (t : Table key) (f : α → α) (hf : ∀ a, key (f a) = key a) : Table key :=
  ⟨t.rows.map f, by
    have h : (t.rows.map f).map key = t.rows.map key := by
      rw [List.map_map]
      exact List.map_congr_left fun a _ => hf a
    rw [h]
    exact t.nodup⟩

def rehash (t : Table key) (rows : List α) (h : rows.Perm t.rows) : Table key :=
  ⟨rows, (h.map key).nodup_iff.2 t.nodup⟩

@[simp] theorem mem_empty (a : α) : a ∈ empty key ↔ False := by simp [mem_def, empty]

@[simp] theorem mem_filter : a ∈ t.filter p ↔ a ∈ t ∧ p a = true :=
  List.mem_filter

/-- **A key has one row.** -/
theorem eq_of_key {b : α} (ha : a ∈ t) (hb : b ∈ t) (h : key a = key b) : a = b :=
  List.inj_on_of_nodup_map t.nodup ha hb h

/-- A test that only one key passes finds one row, or none. -/
theorem filter_eq_singleton (ha : a ∈ t) (hp : p a = true) (hk : ∀ b ∈ t, p b = true → key b = key a) :
    t.rows.filter p = [a] := by
  have hsub : ∀ b ∈ t.rows.filter p, b = a := fun b hb =>
    eq_of_key (List.mem_filter.1 hb).1 ha (hk b (List.mem_filter.1 hb).1 (List.mem_filter.1 hb).2)
  have hnd : (t.rows.filter p).Nodup := (List.Nodup.of_map key t.nodup).filter _
  have hmem : a ∈ t.rows.filter p := List.mem_filter.2 ⟨ha, hp⟩
  match hl : t.rows.filter p with
  | [] => rw [hl] at hmem; cases hmem
  | [b] => rw [hl] at hsub; rw [hsub b (List.mem_singleton.2 rfl)]
  | b :: c :: rest =>
    rw [hl] at hsub hnd
    have hbc : b = c := (hsub b (by simp)).trans (hsub c (by simp)).symm
    exact absurd hnd (by simp [hbc])

variable [DecidableEq κ]

def get? (t : Table key) (k : κ) : Option α := t.rows.find? fun a => key a = k

def erase (t : Table key) (k : κ) : Table key := t.filter fun a => key a ≠ k

/-- The row of `key a` becomes `a`. -/
def insert (t : Table key) (a : α) : Table key where
  rows := a :: (t.erase (key a)).rows
  nodup := by
    rw [List.map_cons, List.nodup_cons]
    refine ⟨fun hm => ?_, (t.erase (key a)).nodup⟩
    obtain ⟨b, hb, he⟩ := List.mem_map.1 hm
    exact absurd he (of_decide_eq_true (List.mem_filter.1 hb).2)

theorem mem_of_get? (h : t.get? k = some a) : a ∈ t ∧ key a = k :=
  ⟨List.mem_of_find?_eq_some h, by simpa using List.find?_some h⟩

theorem get?_eq_none : t.get? k = none ↔ ∀ a ∈ t, key a ≠ k := by
  simp [get?, mem_def]

theorem get?_of_mem (h : a ∈ t) : t.get? (key a) = some a := by
  cases hg : t.get? (key a) with
  | none => exact absurd rfl (get?_eq_none.1 hg a h)
  | some b =>
    obtain ⟨hb, hk⟩ := mem_of_get? hg
    rw [eq_of_key hb h hk]

theorem isSome_get? : (t.get? k).isSome = true ↔ ∃ a ∈ t, key a = k := by
  simp [get?, mem_def]

@[simp] theorem mem_erase : a ∈ t.erase k ↔ a ∈ t ∧ key a ≠ k := by
  simp [erase]

theorem erase_of_get? (h : t.get? k = none) : t.erase k = t := by
  refine ext ?_
  exact List.filter_eq_self.2 fun a ha => decide_eq_true (get?_eq_none.1 h a ha)

theorem mem_insert {b : α} : b ∈ t.insert a ↔ b = a ∨ (b ∈ t ∧ key b ≠ key a) := by
  rw [← mem_erase]
  exact List.mem_cons

theorem map_filterMap_get? (t : Table key) : ∀ {order : List κ}, (∀ k ∈ order, ∃ a ∈ t, key a = k) →
    (order.filterMap t.get?).map key = order
  | [], _ => rfl
  | k :: order, h => by
    obtain ⟨a, ha, rfl⟩ := h k List.mem_cons_self
    rw [List.filterMap_cons_some (get?_of_mem ha), List.map_cons,
      map_filterMap_get? t fun k hk => h k (List.mem_cons_of_mem _ hk)]

/-- A row and the others. -/
theorem get?_eq_some : t.get? k = some a ↔ a ∈ t ∧ key a = k := by
  refine ⟨mem_of_get?, ?_⟩
  rintro ⟨ha, rfl⟩
  exact get?_of_mem ha

theorem get?_erase (t : Table key) (k k' : κ) : (t.erase k).get? k' = if k = k' then none else t.get? k' := by
  apply Option.ext
  intro a
  rw [get?_eq_some, mem_erase]
  by_cases hk : k = k'
  · subst hk
    rw [if_pos rfl]
    exact ⟨fun h => absurd h.2 h.1.2, fun h => by cases h⟩
  · rw [if_neg hk, get?_eq_some]
    exact ⟨fun h => ⟨h.1.1, h.2⟩, fun h => ⟨⟨h.1, fun ha => hk (ha.symm.trans h.2)⟩, h.2⟩⟩

theorem get?_insert (t : Table key) (a : α) (k : κ) : (t.insert a).get? k = if key a = k then some a else t.get? k := by
  by_cases hk : key a = k
  · rw [if_pos hk, get?_eq_some]
    exact ⟨mem_insert.2 (.inl rfl), hk⟩
  · rw [if_neg hk]
    apply Option.ext
    intro b
    rw [get?_eq_some, get?_eq_some, mem_insert]
    constructor
    · rintro ⟨rfl | ⟨hb, -⟩, hkey⟩
      · exact absurd hkey hk
      · exact ⟨hb, hkey⟩
    · rintro ⟨hb, rfl⟩
      exact ⟨.inr ⟨hb, Ne.symm hk⟩, rfl⟩

theorem get?_filter (h : ∀ a, key a = k → p a = true) :
    (t.filter p).get? k = t.get? k := by
  apply Option.ext
  intro a
  rw [get?_eq_some, get?_eq_some, mem_filter]
  exact ⟨fun ha => ⟨ha.1.1, ha.2⟩, fun ha => ⟨⟨ha.1, h a ha.2⟩, ha.2⟩⟩

theorem perm_erase (h : t.get? k = some a) : t.rows.Perm (a :: (t.erase k).rows) := by
  obtain ⟨ha, rfl⟩ := mem_of_get? h
  refine (List.perm_ext_iff_of_nodup (List.Nodup.of_map key t.nodup)
    (List.Nodup.of_map key (t.insert a).nodup)).2 fun b => ?_
  have hin := mem_insert (t := t) (a := a) (b := b)
  refine Iff.trans ?_ hin.symm
  constructor
  · intro hb
    by_cases hk : key b = key a
    · exact .inl (eq_of_key hb ha hk)
    · exact .inr ⟨hb, hk⟩
  · rintro (rfl | ⟨hb, _⟩)
    · exact ha
    · exact hb

/-- The rows in another order of their keys. -/
def reorder (t : Table key) (order : List κ) (h : order.Perm (t.rows.map key)) : Table key where
  rows := order.filterMap t.get?
  nodup := by
    rw [map_filterMap_get? t fun k hk => List.mem_map.1 (h.mem_iff.1 hk)]
    exact h.nodup_iff.2 t.nodup

@[simp] theorem mem_reorder {order : List κ} {h : order.Perm (t.rows.map key)} :
    a ∈ t.reorder order h ↔ a ∈ t := by
  refine List.mem_filterMap.trans ⟨fun ⟨k, _, hg⟩ => (mem_of_get? hg).1, fun ha => ⟨key a, ?_, get?_of_mem ha⟩⟩
  exact h.mem_iff.2 (List.mem_map_of_mem ha)

theorem get?_reorder {order : List κ} (h : order.Perm (t.rows.map key)) (k : κ) :
    (t.reorder order h).get? k = t.get? k := by
  apply Option.ext
  intro a
  rw [get?_eq_some, get?_eq_some, mem_reorder]

end Table

/-! ## Maps -/

/-- A `BTreeMap` as a table of its entries; nothing reads their order. -/
abbrev Map (κ α : Type) := Table (Prod.fst : κ × α → κ)

namespace Map

def empty : Map κ α := Table.empty _

def keys (m : Map κ α) : List κ := m.rows.map Prod.fst

def values (m : Map κ α) : List α := m.rows.map Prod.snd

variable [DecidableEq κ]

def get (m : Map κ α) (k : κ) : Option α := (m.get? k).map Prod.snd

def put (m : Map κ α) (k : κ) (a : α) : Map κ α := m.insert (k, a)

/-- Every value changed. -/
def mapValues (m : Map κ α) (f : κ → α → α) : Map κ α := m.map (fun row => (row.1, f row.1 row.2)) fun _ => rfl

variable {m : Map κ α}

theorem get_eq_some {k : κ} {a : α} : m.get k = some a ↔ (k, a) ∈ m := by
  unfold get
  constructor
  · intro h
    obtain ⟨⟨k', a'⟩, hp, rfl⟩ := Option.map_eq_some_iff.1 h
    obtain ⟨hmem, rfl⟩ := Table.mem_of_get? hp
    exact hmem
  · intro h
    rw [show k = Prod.fst (k, a) from rfl, Table.get?_of_mem h]
    rfl

theorem mem_keys {k : κ} : k ∈ m.keys ↔ (m.get k).isSome := by
  rw [Option.isSome_iff_exists]
  constructor
  · intro h
    obtain ⟨⟨k', a⟩, hrow, rfl⟩ := List.mem_map.1 h
    exact ⟨a, get_eq_some.2 hrow⟩
  · rintro ⟨a, ha⟩
    exact List.mem_map.2 ⟨(k, a), get_eq_some.1 ha, rfl⟩

theorem mem_values {a : α} : a ∈ m.values ↔ ∃ k, m.get k = some a := by
  constructor
  · intro h
    obtain ⟨⟨k, a'⟩, hrow, rfl⟩ := List.mem_map.1 h
    exact ⟨k, get_eq_some.2 hrow⟩
  · rintro ⟨k, hk⟩
    exact List.mem_map.2 ⟨(k, a), get_eq_some.1 hk, rfl⟩

@[simp] theorem get_put (m : Map κ α) (k k' : κ) (a : α) :
    (m.put k a).get k' = if k = k' then some a else m.get k' := by
  apply Option.ext
  intro b
  rw [get_eq_some, put, Table.mem_insert]
  by_cases hk : k = k'
  · subst hk
    simp [eq_comm]
  · rw [if_neg hk, get_eq_some]
    simp [Ne.symm hk]

@[simp] theorem get_erase (m : Map κ α) (k k' : κ) : Map.get (m.erase k) k' = if k = k' then none else m.get k' := by
  apply Option.ext
  intro b
  rw [get_eq_some, Table.mem_erase]
  by_cases hk : k = k'
  · subst hk
    simp
  · rw [if_neg hk, get_eq_some]
    simp [Ne.symm hk]

@[simp] theorem get_filter (m : Map κ α) (p : κ × α → Bool) (k : κ) :
    Map.get (m.filter p) k = (m.get k).filter fun a => p (k, a) := by
  apply Option.ext
  intro b
  rw [get_eq_some, Table.mem_filter, Option.filter_eq_some_iff, get_eq_some]

@[simp] theorem get_mapValues (m : Map κ α) (f : κ → α → α) (k : κ) :
    (m.mapValues f).get k = (m.get k).map (f k) := by
  apply Option.ext
  intro b
  rw [get_eq_some, Option.map_eq_some_iff]
  constructor
  · intro h
    obtain ⟨⟨k', a⟩, hrow, heq⟩ := List.mem_map.1 h
    cases heq
    exact ⟨a, get_eq_some.2 hrow, rfl⟩
  · rintro ⟨a, ha, rfl⟩
    exact List.mem_map.2 ⟨(k, a), get_eq_some.1 ha, rfl⟩

/-- What is read off the rows, at one key. -/
theorem filter_filterMap_rows {β : Type} (m : Map κ α) (f : κ × α → Option (κ × β))
    (hf : ∀ row out, f row = some out → out.1 = row.1) (k : κ) :
    (m.rows.filterMap f).filter (fun out => decide (out.1 = k)) = ((m.get k).bind fun a => f (k, a)).toList := by
  have hrows : ∀ l : List (κ × α), (l.filterMap f).filter (fun out => decide (out.1 = k)) =
      (l.filter fun row => decide (row.1 = k)).filterMap f := by
    intro l
    induction l with
    | nil => rfl
    | cons row l ih =>
      cases hrow : f row with
      | none =>
        by_cases hk : row.1 = k <;> simp [hrow, hk, ih]
      | some out =>
        by_cases hk : row.1 = k <;> simp [hrow, hf row out hrow, hk, ih]
  rw [hrows]
  cases hg : m.get k with
  | none =>
    have hnone : m.rows.filter (fun row => decide (row.1 = k)) = [] := by
      refine List.filter_eq_nil_iff.2 fun row hrow => ?_
      rw [decide_eq_true_eq]
      rintro rfl
      rw [get_eq_some.2 hrow] at hg
      cases hg
    rw [hnone]
    rfl
  | some a =>
    rw [Table.filter_eq_singleton (get_eq_some.1 hg) (decide_eq_true rfl) fun row _ hrow => of_decide_eq_true hrow]
    cases hrow : f (k, a) <;> simp [hrow]

end Map

end Lib
end OpenLogi
