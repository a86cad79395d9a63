import Mathlib.Data.List.Dedup
import OpenLogi.Lib.Sweep
/-!
# Reconcile — writing a document into the text it was loaded from

Saving a configuration brings the document in the file to what is generated, key by key, so that the comments of the
keys that stay are kept.  The documents are the ones of a library, given by its operations and what they are documented
to do.
-/
namespace OpenLogi
namespace Config

/-- A step from an item to one it holds: a key of a table, or a place in an array. -/
inductive Step where
  | key (key : String)
  | index (index : Nat)
  deriving DecidableEq

/-- The documents: tables of items, which are tables again, values, or arrays of tables.  An inline table is a value. -/
structure TomlEdit where
  Item : Type
  Table : Type
  Value : Type
  /-- The comments and the whitespace at a key. -/
  KeyDecor : Type
  /-- The comments and the whitespace at a value or at the header of a table. -/
  Decor : Type
  /-- What a value or an array of tables says. -/
  Content : Type
  iter : Table → List (String × Item)
  get : Table → String → Option Item
  remove : Table → String → Table
  insert : Table → String → Item → Table
  /-- A write through `get_mut`. -/
  modify : Table → String → (Item → Item) → Table
  asTable : Item → Option Table
  ofTable : Table → Item
  asValue : Item → Option Value
  ofValue : Value → Item
  content : Item → Content
  decor : Value → Decor
  setDecor : Value → Decor → Value
  tableDecor : Table → Decor
  keyDecor : Table → String → KeyDecor
  /-- The decoration at a place inside a value or an array of tables. -/
  innerDecor : Item → List Step → Option (KeyDecor × Option Decor)
  /-- How deep an item is. -/
  depth : Item → Nat
  mem_iter : ∀ {t key item}, (key, item) ∈ iter t ↔ get t key = some item
  nodup_iter : ∀ t, ((iter t).map Prod.fst).Nodup
  get_remove : ∀ t key key', get (remove t key) key' = if key = key' then none else get t key'
  get_insert : ∀ t key item key', get (insert t key item) key' = if key = key' then some item else get t key'
  get_modify : ∀ t key f key', get (modify t key f) key' = if key = key' then (get t key').map f else get t key'
  asTable_iff : ∀ {item t}, asTable item = some t ↔ item = ofTable t
  ofTable_inj : ∀ {t u}, ofTable t = ofTable u → t = u
  asValue_iff : ∀ {item v}, asValue item = some v ↔ item = ofValue v
  ofValue_inj : ∀ {v w}, ofValue v = ofValue w → v = w
  table_ne_value : ∀ t v, ofTable t ≠ ofValue v
  content_setDecor : ∀ v d, content (ofValue (setDecor v d)) = content (ofValue v)
  innerDecor_setDecor : ∀ v d path, innerDecor (ofValue (setDecor v d)) path = innerDecor (ofValue v) path
  decor_setDecor : ∀ v d, decor (setDecor v d) = d
  tableDecor_remove : ∀ t key, tableDecor (remove t key) = tableDecor t
  tableDecor_insert : ∀ t key item, tableDecor (insert t key item) = tableDecor t
  tableDecor_modify : ∀ t key f, tableDecor (modify t key f) = tableDecor t
  keyDecor_remove : ∀ {t key key'}, key ≠ key' → keyDecor (remove t key) key' = keyDecor t key'
  keyDecor_insert : ∀ {t key item key'}, key ≠ key' → keyDecor (insert t key item) key' = keyDecor t key'
  keyDecor_modify : ∀ t key f key', keyDecor (modify t key f) key' = keyDecor t key'
  depth_get : ∀ {t key item}, get t key = some item → depth item < depth (ofTable t)

namespace TomlEdit

variable (T : TomlEdit)

/-- An item that is no table in both documents: only the decoration of a value is kept. -/
def replaceItem (current generated : T.Item) : T.Item :=
  match T.asValue current, T.asValue generated with
  | some old, some new => T.ofValue (T.setDecor new (T.decor old))
  | _, _ => generated

/-- The keys that are not generated any more. -/
def stale (current generated : T.Table) : List String :=
  ((T.iter current).filter fun entry => (T.get generated entry.1).isNone).map Prod.fst

mutual

def reconcileTable (current generated : T.Table) : T.Table :=
  (T.iter generated).foldl (fun current entry =>
    if (T.get current entry.1).isSome then T.modify current entry.1 fun item => reconcileItem item entry.2
    else T.insert current entry.1 entry.2) ((T.stale current generated).foldl T.remove current)
termination_by (T.depth (T.ofTable generated), 0)
decreasing_by
  rename_i hentry _
  exact Prod.Lex.left _ _ (T.depth_get (T.mem_iter.1 hentry))

def reconcileItem (current generated : T.Item) : T.Item :=
  match T.asTable current, _hgenerated : T.asTable generated with
  | some current, some generated => T.ofTable (reconcileTable current generated)
  | _, _ => T.replaceItem current generated
termination_by (T.depth generated, 1)
decreasing_by
  rw [T.asTable_iff.1 _hgenerated]
  exact Prod.Lex.right _ Nat.zero_lt_one

end

/-! ## What a document says -/

/-- Two items say the same: tables hold the same keys, and items that say the same at each. -/
inductive SameTree : T.Item → T.Item → Prop where
  | table {a b : T.Item} {s t : T.Table} (ha : T.asTable a = some s) (hb : T.asTable b = some t)
      (hkeys : ∀ key, T.get s key = none ↔ T.get t key = none)
      (hitems : ∀ key x y, T.get s key = some x → T.get t key = some y → SameTree x y) : SameTree a b
  | leaf {a b : T.Item} (ha : T.asTable a = none) (hb : T.asTable b = none) (h : T.content a = T.content b) :
      SameTree a b

/-- The decoration of an item itself; an array of tables has none of its own. -/
def itemDecor (item : T.Item) : Option T.Decor :=
  match T.asTable item with
  | some t => some (T.tableDecor t)
  | none => (T.asValue item).map T.decor

/-- The decoration of the key that a path leads to. -/
def decorAt (item : T.Item) : List Step → Option (T.KeyDecor × Option T.Decor)
  | [] => none
  | step :: path =>
    match T.asTable item, step with
    | none, _ => T.innerDecor item (step :: path)
    | some _, .index _ => none
    | some t, .key key => (T.get t key).bind fun child =>
      match path with
      | [] => some (T.keyDecor t key, T.itemDecor child)
      | step :: path => decorAt child (step :: path)

/-- A key of both documents keeps its decoration. -/
def KeepsAt (current generated result : T.Item) (path : List Step) : Prop :=
  ∀ decor, T.decorAt current path = some decor → (T.decorAt generated path).isSome → T.decorAt result path = some decor

/-- What reconciliation is for: the document says what was generated, and every key that was there keeps its
decoration. -/
def Reconciles (current generated result : T.Item) : Prop :=
  T.SameTree result generated ∧ ∀ path, T.KeepsAt current generated result path

/-- Both are tables, or both are values. -/
def SameShape (current generated : T.Item) : Prop :=
  ((T.asTable current).isSome ∧ (T.asTable generated).isSome) ∨
    ((T.asValue current).isSome ∧ (T.asValue generated).isSome)

/-- The shapes agree along a path through tables, and where they do not, the decorations do. -/
def Agrees (current generated : T.Item) : List Step → Prop
  | [] => True
  | step :: path =>
    match T.asTable current, T.asTable generated, step with
    | some c, some g, .key key => ∀ old new, T.get c key = some old → T.get g key = some new →
      match path with
      | [] => T.SameShape old new ∨ T.itemDecor new = T.itemDecor old
      | step :: path => Agrees old new (step :: path)
    | some _, some _, .index _ => True
    | _, _, _ => ∀ decor, T.decorAt current (step :: path) = some decor → (T.decorAt generated (step :: path)).isSome →
      T.decorAt generated (step :: path) = some decor

/-! ## Tables -/

variable {T}

@[simp] theorem asTable_ofTable (t : T.Table) : T.asTable (T.ofTable t) = some t := T.asTable_iff.2 rfl

@[simp] theorem asTable_ofValue (v : T.Value) : T.asTable (T.ofValue v) = none := by
  cases h : T.asTable (T.ofValue v) with
  | none => rfl
  | some t => exact absurd (T.asTable_iff.1 h).symm (T.table_ne_value t v)

@[simp] theorem asValue_ofValue (v : T.Value) : T.asValue (T.ofValue v) = some v := T.asValue_iff.2 rfl

theorem get_foldl_remove (keys : List String) (t : T.Table) (key : String) :
    T.get (keys.foldl T.remove t) key = if key ∈ keys then none else T.get t key := by
  induction keys generalizing t with
  | nil => exact (if_neg List.not_mem_nil).symm
  | cons first keys ih =>
    rw [List.foldl_cons, ih, T.get_remove]
    by_cases hkey : first = key
    · simp [hkey]
    · simp [hkey, Ne.symm hkey]

/-- One generated entry brought into a table. -/
def mergeEntry (T : TomlEdit) (merge : T.Item → T.Item → T.Item) (current : T.Table) (entry : String × T.Item) :
    T.Table :=
  if (T.get current entry.1).isSome then T.modify current entry.1 fun item => merge item entry.2
  else T.insert current entry.1 entry.2

theorem reconcileTable_eq (current generated : T.Table) : T.reconcileTable current generated =
    (T.iter generated).foldl (T.mergeEntry T.reconcileItem) ((T.stale current generated).foldl T.remove current) := by
  rw [reconcileTable]
  rfl

theorem get_mergeEntry (merge : T.Item → T.Item → T.Item) (t : T.Table) (entry : String × T.Item) (key : String) :
    T.get (T.mergeEntry merge t entry) key =
      if entry.1 = key then some ((T.get t key).elim entry.2 fun item => merge item entry.2) else T.get t key := by
  unfold mergeEntry
  by_cases hkey : entry.1 = key
  · subst hkey
    cases hget : T.get t entry.1 with
    | none => simp [T.get_insert]
    | some item => simp [hget, T.get_modify]
  · rw [if_neg hkey]
    split
    · rw [T.get_modify, if_neg hkey]
    · rw [T.get_insert, if_neg hkey]

theorem get_foldl_mergeEntry (merge : T.Item → T.Item → T.Item) (key : String) :
    ∀ (entries : List (String × T.Item)) (t : T.Table), (entries.map Prod.fst).Nodup →
      T.get (entries.foldl (T.mergeEntry merge) t) key = ((entries.find? fun entry => entry.1 = key).map fun entry =>
        (T.get t key).elim entry.2 fun item => merge item entry.2).or (T.get t key)
  | [], t, _ => rfl
  | entry :: entries, t, h => by
    obtain ⟨hfirst, hnodup⟩ := List.nodup_cons.1 h
    rw [List.foldl_cons, get_foldl_mergeEntry merge key entries _ hnodup, get_mergeEntry, List.find?_cons]
    by_cases hkey : entry.1 = key
    · have hnone : entries.find? (fun entry => entry.1 = key) = none := List.find?_eq_none.2 fun other hother hsame =>
        hfirst (hkey ▸ of_decide_eq_true hsame ▸ List.mem_map_of_mem hother)
      rw [hnone, if_pos hkey]
      simp [hkey]
    · simp [hkey]

/-- The entries of a table, looked through for a key. -/
theorem find?_iter (t : T.Table) (key : String) :
    (T.iter t).find? (fun entry => entry.1 = key) = (T.get t key).map fun item => (key, item) := by
  cases hfind : (T.iter t).find? fun entry => entry.1 = key with
  | some entry =>
    have hkey : entry.1 = key := by simpa using List.find?_some hfind
    subst hkey
    rw [T.mem_iter.1 (List.mem_of_find?_eq_some hfind)]
    rfl
  | none =>
    cases hget : T.get t key with
    | none => rfl
    | some item => exact absurd (decide_eq_true rfl) (List.find?_eq_none.1 hfind _ (T.mem_iter.2 hget))

variable {key : String}

theorem mem_stale {current generated : T.Table} :
    key ∈ T.stale current generated ↔ (T.get current key).isSome ∧ T.get generated key = none := by
  unfold stale
  simp only [List.mem_map, List.mem_filter, Option.isNone_iff_eq_none]
  constructor
  · rintro ⟨⟨key, item⟩, ⟨hentry, hnone⟩, rfl⟩
    exact ⟨Option.isSome_of_mem (T.mem_iter.1 hentry), hnone⟩
  · rintro ⟨hsome, hnone⟩
    obtain ⟨item, hitem⟩ := Option.isSome_iff_exists.1 hsome
    exact ⟨(key, item), ⟨T.mem_iter.2 hitem, hnone⟩, rfl⟩

/-- What the reconciled table holds at a key. -/
theorem get_reconcileTable (current generated : T.Table) (key : String) :
    T.get (T.reconcileTable current generated) key = (T.get generated key).map fun new =>
      (T.get current key).elim new fun old => T.reconcileItem old new := by
  rw [reconcileTable_eq, get_foldl_mergeEntry _ _ _ _ (T.nodup_iter generated), find?_iter, get_foldl_remove]
  cases hnew : T.get generated key with
  | none =>
    cases hold : T.get current key with
    | none => simp
    | some old => simp [mem_stale, hold, hnew]
  | some new => simp [mem_stale, hnew]

theorem tableDecor_mergeEntry (merge : T.Item → T.Item → T.Item) (t : T.Table) (entry : String × T.Item) :
    T.tableDecor (T.mergeEntry merge t entry) = T.tableDecor t := by
  unfold mergeEntry
  split
  · exact T.tableDecor_modify ..
  · exact T.tableDecor_insert ..

theorem tableDecor_reconcileTable (current generated : T.Table) :
    T.tableDecor (T.reconcileTable current generated) = T.tableDecor current := by
  have hremoved : T.tableDecor ((T.stale current generated).foldl T.remove current) = T.tableDecor current :=
    Lib.foldl_keeps (fun t => T.tableDecor t = T.tableDecor current)
      (fun t key h => (T.tableDecor_remove t key).trans h) _ _ rfl
  rw [reconcileTable_eq]
  exact Lib.foldl_keeps (fun t => T.tableDecor t = T.tableDecor current)
    (fun t entry h => (tableDecor_mergeEntry _ t entry).trans h) _ _ hremoved

theorem keyDecor_foldl_remove {keys : List String} (h : key ∉ keys) (t : T.Table) :
    T.keyDecor (keys.foldl T.remove t) key = T.keyDecor t key := by
  induction keys generalizing t with
  | nil => rfl
  | cons other keys ih =>
    rw [List.mem_cons, not_or] at h
    rw [List.foldl_cons, ih h.2, T.keyDecor_remove (Ne.symm h.1)]

/-- A key that a table has stays, with its decoration. -/
theorem keyDecor_mergeEntry (merge : T.Item → T.Item → T.Item) {t : T.Table} (h : (T.get t key).isSome)
    (entry : String × T.Item) :
    (T.get (T.mergeEntry merge t entry) key).isSome ∧
      T.keyDecor (T.mergeEntry merge t entry) key = T.keyDecor t key := by
  constructor
  · rw [get_mergeEntry]
    split
    · rfl
    · exact h
  · unfold mergeEntry
    split
    · exact T.keyDecor_modify ..
    · rename_i habsent
      exact T.keyDecor_insert fun hkey => habsent (hkey ▸ h)

/-- A key of both tables keeps its decoration. -/
theorem keyDecor_reconcileTable {current generated : T.Table} (hold : (T.get current key).isSome)
    (hnew : (T.get generated key).isSome) :
    T.keyDecor (T.reconcileTable current generated) key = T.keyDecor current key := by
  have hkept : key ∉ T.stale current generated := fun hstale => by
    rw [(mem_stale.1 hstale).2] at hnew
    cases hnew
  have hremoved : (T.get ((T.stale current generated).foldl T.remove current) key).isSome ∧
      T.keyDecor ((T.stale current generated).foldl T.remove current) key = T.keyDecor current key := by
    rw [get_foldl_remove, if_neg hkept]
    exact ⟨hold, keyDecor_foldl_remove hkept current⟩
  rw [reconcileTable_eq]
  refine (Lib.foldl_keeps (fun t => (T.get t key).isSome ∧ T.keyDecor t key = T.keyDecor current key)
    (fun t entry h => ?_) _ _ hremoved).2
  obtain ⟨hsome, hdecor⟩ := keyDecor_mergeEntry T.reconcileItem h.1 entry
  exact ⟨hsome, hdecor.trans h.2⟩

/-! ## Items -/

theorem reconcileItem_tables (current generated : T.Table) :
    T.reconcileItem (T.ofTable current) (T.ofTable generated) = T.ofTable (T.reconcileTable current generated) := by
  rw [reconcileItem]
  split
  · rename_i old new hold hnew
    cases (asTable_ofTable current).symm.trans hold
    cases (asTable_ofTable generated).symm.trans hnew
    rfl
  · rename_i hneither
    exact (hneither _ _ (asTable_ofTable current) (asTable_ofTable generated)).elim

theorem reconcileItem_replaces {current generated : T.Item}
    (h : T.asTable current = none ∨ T.asTable generated = none) :
    T.reconcileItem current generated = T.replaceItem current generated := by
  rw [reconcileItem]
  split
  · rename_i hcurrent hgenerated
    rw [hcurrent, hgenerated] at h
    rcases h with h | h <;> cases h
  · rfl

theorem sameTree_refl (item : T.Item) : T.SameTree item item := by
  cases h : T.asTable item with
  | none => exact .leaf h h rfl
  | some t =>
    refine .table h h (fun _ => Iff.rfl) fun key x y hx hy => ?_
    cases hx.symm.trans hy
    exact sameTree_refl x
termination_by T.depth item
decreasing_by
  rw [T.asTable_iff.1 h]
  exact T.depth_get hx

/-- **The reconciled item says what was generated.** -/
theorem sameTree_reconcileItem (current generated : T.Item) :
    T.SameTree (T.reconcileItem current generated) generated := by
  cases hgenerated : T.asTable generated with
  | none =>
    rw [reconcileItem_replaces (.inr hgenerated), replaceItem]
    split
    · rename_i old new hold hnew
      rw [T.asValue_iff.1 hnew]
      exact .leaf (asTable_ofValue _) (asTable_ofValue _) (T.content_setDecor ..)
    · exact sameTree_refl generated
  | some new =>
    cases hcurrent : T.asTable current with
    | none =>
      have hvalue : T.asValue generated = none := by
        cases h : T.asValue generated with
        | none => rfl
        | some v => exact absurd ((T.asTable_iff.1 hgenerated).symm.trans (T.asValue_iff.1 h)) (T.table_ne_value new v)
      rw [reconcileItem_replaces (.inl hcurrent), replaceItem, hvalue]
      split
      · rename_i h
        cases h
      · exact sameTree_refl generated
    | some old =>
      rw [T.asTable_iff.1 hcurrent, T.asTable_iff.1 hgenerated, reconcileItem_tables]
      refine .table (asTable_ofTable _) (asTable_ofTable _) (fun key => ?_) fun key x y hx hy => ?_
      · rw [get_reconcileTable, Option.map_eq_none_iff]
      · rw [get_reconcileTable, hy] at hx
        cases hx
        cases T.get old key with
        | none => exact sameTree_refl y
        | some before => exact sameTree_reconcileItem before y
termination_by T.depth generated
decreasing_by
  rw [T.asTable_iff.1 hgenerated]
  exact T.depth_get hy

/-! ## Decorations -/

/-- Below an item that is no table in both documents, the decorations are the generated ones. -/
theorem decorAt_replaceItem (current generated : T.Item) (path : List Step) :
    T.decorAt (T.replaceItem current generated) path = T.decorAt generated path := by
  unfold replaceItem
  split
  · rename_i old new hold hnew
    rw [T.asValue_iff.1 hnew]
    cases path with
    | nil => rfl
    | cons step path =>
      unfold decorAt
      rw [asTable_ofValue, asTable_ofValue]
      exact T.innerDecor_setDecor ..
  · rfl

/-- The item itself keeps its decoration where the shapes agree. -/
theorem itemDecor_reconcileItem (current generated : T.Item) : T.itemDecor (T.reconcileItem current generated) =
    T.itemDecor current ↔ T.SameShape current generated ∨ T.itemDecor generated = T.itemDecor current := by
  have hreplaced : T.asTable current = none ∨ T.asTable generated = none →
      (T.itemDecor (T.reconcileItem current generated) = T.itemDecor current ↔
        T.SameShape current generated ∨ T.itemDecor generated = T.itemDecor current) := by
    intro h
    rw [reconcileItem_replaces h, replaceItem]
    split
    · rename_i old new hold hnew
      have hshape : T.SameShape current generated := .inr ⟨Option.isSome_of_mem hold, Option.isSome_of_mem hnew⟩
      refine iff_of_true ?_ (.inl hshape)
      rw [T.asValue_iff.1 hold]
      simp [itemDecor, T.decor_setDecor]
    · rename_i hneither
      refine (or_iff_right ?_).symm
      rintro (⟨hold, hnew⟩ | ⟨hold, hnew⟩)
      · rcases h with h | h
        · rw [h] at hold
          cases hold
        · rw [h] at hnew
          cases hnew
      · obtain ⟨old, hold⟩ := Option.isSome_iff_exists.1 hold
        obtain ⟨new, hnew⟩ := Option.isSome_iff_exists.1 hnew
        exact hneither old new hold hnew
  cases hcurrent : T.asTable current with
  | none => exact hreplaced (.inl hcurrent)
  | some old =>
    cases hgenerated : T.asTable generated with
    | none => exact hreplaced (.inr hgenerated)
    | some new =>
      refine iff_of_true ?_ (.inl (.inl ⟨Option.isSome_of_mem hcurrent, Option.isSome_of_mem hgenerated⟩))
      rw [T.asTable_iff.1 hcurrent, T.asTable_iff.1 hgenerated, reconcileItem_tables]
      simp [itemDecor, tableDecor_reconcileTable]

/-- The decoration at the key of a table. -/
theorem decorAt_key (t : T.Table) (key : String) : T.decorAt (T.ofTable t) [.key key] =
    (T.get t key).map fun child => (T.keyDecor t key, T.itemDecor child) := by
  unfold decorAt
  rw [asTable_ofTable]
  dsimp only
  cases T.get t key <;> rfl

theorem decorAt_below (t : T.Table) (key : String) (step : Step) (path : List Step) :
    T.decorAt (T.ofTable t) (.key key :: step :: path) =
      (T.get t key).bind fun child => T.decorAt child (step :: path) := by
  conv_lhs => unfold decorAt
  rw [asTable_ofTable]

theorem agrees_key (c g : T.Table) (key : String) : T.Agrees (T.ofTable c) (T.ofTable g) [.key key] ↔
    ∀ old new, T.get c key = some old → T.get g key = some new →
      T.SameShape old new ∨ T.itemDecor new = T.itemDecor old := by
  unfold Agrees
  rw [asTable_ofTable, asTable_ofTable]

theorem agrees_below (c g : T.Table) (key : String) (step : Step) (path : List Step) :
    T.Agrees (T.ofTable c) (T.ofTable g) (.key key :: step :: path) ↔
      ∀ old new, T.get c key = some old → T.get g key = some new → T.Agrees old new (step :: path) := by
  conv_lhs => unfold Agrees
  rw [asTable_ofTable, asTable_ofTable]

/-- **A key keeps its decoration exactly when the shapes agree on the way to it, or the decorations do.** -/
theorem keepsAt_iff (path : List Step) (current generated : T.Item) :
    T.KeepsAt current generated (T.reconcileItem current generated) path ↔ T.Agrees current generated path := by
  induction path generalizing current generated with
  | nil => exact iff_of_true (fun decor hdecor => by cases hdecor) trivial
  | cons step path ih =>
    by_cases htables : (T.asTable current).isSome ∧ (T.asTable generated).isSome
    · obtain ⟨c, hc⟩ := Option.isSome_iff_exists.1 htables.1
      obtain ⟨g, hg⟩ := Option.isSome_iff_exists.1 htables.2
      rw [T.asTable_iff.1 hc, T.asTable_iff.1 hg, reconcileItem_tables]
      cases step with
      | index index =>
        refine iff_of_true (fun decor hdecor => ?_) ?_
        · unfold decorAt at hdecor
          rw [asTable_ofTable] at hdecor
          cases hdecor
        · unfold Agrees
          rw [asTable_ofTable, asTable_ofTable]
          exact trivial
      | key key =>
        cases path with
        | nil =>
          rw [agrees_key, KeepsAt, decorAt_key, decorAt_key, decorAt_key, get_reconcileTable]
          constructor
          · intro h old new hold hnew
            have hkept := h (T.keyDecor c key, T.itemDecor old)
            rw [hold, hnew] at hkept
            have hkept := congrArg (Option.map Prod.snd) (hkept rfl rfl)
            exact (itemDecor_reconcileItem old new).1 (Option.some.inj hkept)
          · intro h decor hdecor hgenerated
            obtain ⟨old, hold, rfl⟩ := Option.map_eq_some_iff.1 hdecor
            rw [Option.isSome_map] at hgenerated
            obtain ⟨new, hnew⟩ := Option.isSome_iff_exists.1 hgenerated
            have hitem := (itemDecor_reconcileItem old new).2 (h old new hold hnew)
            have hkey := keyDecor_reconcileTable (Option.isSome_of_mem hold) (Option.isSome_of_mem hnew)
            rw [hnew, hold]
            simp [hitem, hkey]
        | cons next path =>
          rw [agrees_below, KeepsAt, decorAt_below, decorAt_below, decorAt_below, get_reconcileTable]
          constructor
          · intro h old new hold hnew
            rw [hold, hnew] at h
            exact (ih old new).1 h
          · intro h decor hdecor hgenerated
            obtain ⟨old, hold, hold'⟩ := Option.bind_eq_some_iff.1 hdecor
            obtain ⟨found, hfound⟩ := Option.isSome_iff_exists.1 hgenerated
            obtain ⟨new, hnew, hnew'⟩ := Option.bind_eq_some_iff.1 hfound
            rw [hnew, hold]
            exact (ih old new).2 (h old new hold hnew) decor hold' (Option.isSome_of_mem hnew')
    · have hnone : T.asTable current = none ∨ T.asTable generated = none := by
        rcases not_and_or.1 htables with h | h
        · exact .inl (Option.not_isSome_iff_eq_none.1 h)
        · exact .inr (Option.not_isSome_iff_eq_none.1 h)
      rw [reconcileItem_replaces hnone, KeepsAt, decorAt_replaceItem]
      unfold Agrees
      rcases hnone with hnone | hnone
      · rw [hnone]
      · rw [hnone]
        cases T.asTable current <;> rfl

/-! ## Whole documents -/

theorem keepsAt_table_iff (path : List Step) (current generated : T.Table) :
    T.KeepsAt (T.ofTable current) (T.ofTable generated) (T.ofTable (T.reconcileTable current generated)) path ↔
      T.Agrees (T.ofTable current) (T.ofTable generated) path := by
  rw [← reconcileItem_tables]
  exact keepsAt_iff path _ _

/-- **The document always says what was generated, and it keeps the decorations exactly when the shapes agree on the way
to every key of both documents, or the decorations do.** -/
theorem reconciles_iff (T : TomlEdit) (current generated : T.Table) :
    T.Reconciles (T.ofTable current) (T.ofTable generated) (T.ofTable (T.reconcileTable current generated)) ↔
      ∀ path, T.Agrees (T.ofTable current) (T.ofTable generated) path := by
  have htree := sameTree_reconcileItem (T.ofTable current) (T.ofTable generated)
  rw [reconcileItem_tables] at htree
  exact (and_iff_right htree).trans (forall_congr' fun path => keepsAt_table_iff path current generated)

end TomlEdit

/-! ## A small document -/

/-- Tables with their keys in a list, and values as they are written; an inline table is a value. -/
inductive SampleItem where
  | value (decor content : String)
  | table (decor : String) (entries : List (String × String × SampleItem))

namespace SampleItem

/-- The entries of a table, each with the decoration of its key. -/
abbrev Entries : Type := List (String × String × SampleItem)

def find (entries : Entries) (key : String) : Option (String × SampleItem) :=
  (entries.find? fun entry => entry.1 = key).map Prod.snd

def keys (entries : Entries) : List String := (entries.map Prod.fst).dedup

def erase (entries : Entries) (key : String) : Entries := entries.filter fun entry => entry.1 ≠ key

def write (entries : Entries) (key : String) (f : SampleItem → SampleItem) : Entries :=
  entries.map fun entry => (entry.1, entry.2.1, if entry.1 = key then f entry.2.2 else entry.2.2)

theorem find_cons (entry : String × String × SampleItem) (entries : Entries) (key : String) :
    find (entry :: entries) key = if entry.1 = key then some entry.2 else find entries key := by
  unfold find
  rw [List.find?_cons]
  by_cases hkey : entry.1 = key <;> simp [hkey]

theorem find_erase (entries : Entries) (key key' : String) :
    find (erase entries key) key' = if key = key' then none else find entries key' := by
  induction entries with
  | nil => exact (ite_self none).symm
  | cons entry entries ih =>
    have herase : erase (entry :: entries) key =
        if entry.1 = key then erase entries key else entry :: erase entries key := by
      by_cases hkey : entry.1 = key <;> simp [erase, hkey]
    rw [herase, find_cons]
    split
    · rename_i hkey
      rw [ih, hkey]
      split <;> rfl
    · rename_i hkey
      rw [find_cons, ih]
      by_cases h : entry.1 = key'
      · rw [if_pos h, if_pos h, if_neg fun hc => hkey (h.trans hc.symm)]
      · rw [if_neg h, if_neg h]

theorem find_write (entries : Entries) (key : String) (f : SampleItem → SampleItem) (key' : String) :
    find (write entries key f) key' = (find entries key').map fun found =>
      (found.1, if key = key' then f found.2 else found.2) := by
  induction entries with
  | nil => rfl
  | cons entry entries ih =>
    rw [show write (entry :: entries) key f =
      (entry.1, entry.2.1, if entry.1 = key then f entry.2.2 else entry.2.2) :: write entries key f from rfl,
      find_cons, find_cons, ih]
    by_cases hkey : entry.1 = key'
    · subst hkey
      simp [eq_comm]
    · simp [hkey]

variable {entries : Entries} {key : String}

theorem mem_keys (h : (find entries key).isSome) : key ∈ keys entries := by
  unfold find at h
  rw [Option.isSome_map] at h
  obtain ⟨entry, hentry⟩ := Option.isSome_iff_exists.1 h
  have hkey : entry.1 = key := by simpa using List.find?_some hentry
  exact List.mem_dedup.2 (hkey ▸ List.mem_map_of_mem (List.mem_of_find?_eq_some hentry))

def asTable : SampleItem → Option (String × Entries)
  | .table decor entries => some (decor, entries)
  | .value _ _ => none

def asValue : SampleItem → Option (String × String)
  | .value decor content => some (decor, content)
  | .table _ _ => none

def content : SampleItem → String
  | .value _ content => content
  | .table _ _ => ""

def iter (entries : Entries) : List (String × SampleItem) :=
  (keys entries).filterMap fun key => (find entries key).map fun found => (key, found.2)

theorem mem_iter {item : SampleItem} :
    (key, item) ∈ iter entries ↔ (find entries key).map Prod.snd = some item := by
  unfold iter
  rw [List.mem_filterMap]
  constructor
  · rintro ⟨key', -, hfound⟩
    obtain ⟨found, hfind, heq⟩ := Option.map_eq_some_iff.1 hfound
    cases heq
    rw [hfind]
    rfl
  · intro h
    obtain ⟨found, hfind, rfl⟩ := Option.map_eq_some_iff.1 h
    refine ⟨key, mem_keys (Option.isSome_of_mem hfind), ?_⟩
    rw [hfind]
    rfl

theorem nodup_iter (entries : Entries) : ((iter entries).map Prod.fst).Nodup := by
  have hkeys : ∀ l : List String, ((l.filterMap fun key => (find entries key).map fun found => (key, found.2)).map
      Prod.fst).Sublist l := by
    intro l
    induction l with
    | nil => exact List.Sublist.refl _
    | cons key l ih =>
      rw [List.filterMap_cons]
      cases find entries key with
      | none => exact ih.cons key
      | some found => exact ih.cons_cons key
  exact (List.nodup_dedup _).sublist (hkeys _)

mutual

def size : SampleItem → Nat
  | .value _ _ => 0
  | .table _ entries => sizes entries + 1

def sizes : List (String × String × SampleItem) → Nat
  | [] => 0
  | (_, _, item) :: rest => size item + sizes rest

end

theorem size_le_sizes {entry : String × String × SampleItem} (h : entry ∈ entries) :
    size entry.2.2 ≤ sizes entries := by
  induction entries with
  | nil => cases h
  | cons first rest ih =>
    rw [sizes]
    rcases List.mem_cons.1 h with rfl | h
    · exact Nat.le_add_right _ _
    · exact Nat.le_trans (ih h) (Nat.le_add_left _ _)

theorem size_find {decor : String} {item : SampleItem} (h : (find entries key).map Prod.snd = some item) :
    size item < size (.table decor entries) := by
  obtain ⟨found, hfound, rfl⟩ := Option.map_eq_some_iff.1 h
  obtain ⟨entry, hentry, rfl⟩ := Option.map_eq_some_iff.1 hfound
  rw [size.eq_def (.table decor entries)]
  exact Nat.lt_succ_of_le (size_le_sizes (List.mem_of_find?_eq_some hentry))

def get (t : String × Entries) (key : String) : Option SampleItem := (find t.2 key).map Prod.snd

def keyDecor (t : String × Entries) (key : String) : String := ((find t.2 key).map Prod.fst).getD ""

end SampleItem

open SampleItem in
/-- The library on such documents. -/
def sampleToml : TomlEdit where
  Item := SampleItem
  Table := String × SampleItem.Entries
  Value := String × String
  KeyDecor := String
  Decor := String
  Content := String
  iter t := iter t.2
  get := SampleItem.get
  remove t key := (t.1, erase t.2 key)
  insert t key item := (t.1, (key, "", item) :: erase t.2 key)
  modify t key f := (t.1, write t.2 key f)
  asTable := asTable
  ofTable t := .table t.1 t.2
  asValue := asValue
  ofValue v := .value v.1 v.2
  content := content
  decor := Prod.fst
  setDecor v decor := (decor, v.2)
  tableDecor := Prod.fst
  keyDecor := keyDecor
  innerDecor _ _ := none
  depth := size
  mem_iter := mem_iter
  nodup_iter t := nodup_iter t.2
  get_remove := by
    intro t key key'
    rw [SampleItem.get, SampleItem.get, find_erase]
    split <;> rfl
  get_insert := by
    intro t key item key'
    rw [SampleItem.get, SampleItem.get, find_cons, find_erase]
    split <;> rfl
  get_modify := by
    intro t key f key'
    rw [SampleItem.get, SampleItem.get, find_write]
    cases find t.2 key' <;> split <;> rfl
  asTable_iff := by
    intro item t
    cases item <;> simp [asTable, Prod.ext_iff]
  ofTable_inj := by
    intro t u h
    injection h with hdecor hentries
    exact Prod.ext hdecor hentries
  asValue_iff := by
    intro item v
    cases item <;> simp [asValue, Prod.ext_iff]
  ofValue_inj := by
    intro v w h
    injection h with hdecor hcontent
    exact Prod.ext hdecor hcontent
  table_ne_value := by
    intro t v h
    cases h
  content_setDecor := fun _ _ => rfl
  innerDecor_setDecor := fun _ _ _ => rfl
  decor_setDecor := fun _ _ => rfl
  tableDecor_remove := fun _ _ => rfl
  tableDecor_insert := fun _ _ _ => rfl
  tableDecor_modify := fun _ _ _ => rfl
  keyDecor_remove := by
    intro t key key' hne
    rw [keyDecor, keyDecor, find_erase, if_neg hne]
  keyDecor_insert := by
    intro t key item key' hne
    rw [keyDecor, keyDecor, find_cons, if_neg hne, find_erase, if_neg hne]
  keyDecor_modify := by
    intro t key f key'
    rw [keyDecor, keyDecor, find_write, Option.map_map]
    rfl
  depth_get := size_find

/-- A comment behind a value that is generated with another content. -/
theorem reconciles_value : sampleToml.Reconciles
    (sampleToml.ofTable ("", [("selected_device", "", .value " # mine" "one")]))
    (sampleToml.ofTable ("", [("selected_device", "", .value "" "two")]))
    (sampleToml.ofTable (sampleToml.reconcileTable ("", [("selected_device", "", .value " # mine" "one")])
      ("", [("selected_device", "", .value "" "two")]))) := by
  refine (TomlEdit.reconciles_iff sampleToml _ _).2 fun path => ?_
  cases path with
  | nil => exact trivial
  | cons step path =>
    cases step with
    | index index => exact trivial
    | key key =>
      have hvalue : ∀ {content : String} {item : SampleItem} {decor : String},
          sampleToml.get ("", [("selected_device", "", .value decor content)]) key = some item →
            item = .value decor content := by
        intro content item decor h
        have h : (SampleItem.find [("selected_device", "", .value decor content)] key).map Prod.snd = some item := h
        rw [SampleItem.find_cons] at h
        split at h <;> cases h
        rfl
      cases path with
      | nil =>
        refine (TomlEdit.agrees_key (T := sampleToml) _ _ key).2 fun old new hold hnew => .inl (.inr ?_)
        rw [hvalue hold, hvalue hnew]
        exact ⟨rfl, rfl⟩
      | cons next path =>
        refine (TomlEdit.agrees_below (T := sampleToml) _ _ key next path).2 fun old new hold hnew => ?_
        rw [hvalue hold, hvalue hnew]
        intro decor hdecor
        cases hdecor

/-- **A value that is generated as a table loses its comment.** -/
theorem inline_table_loses_comment : ¬ ∀ (T : TomlEdit) (current generated : T.Table),
    T.Reconciles (T.ofTable current) (T.ofTable generated) (T.ofTable (T.reconcileTable current generated)) := by
  intro h
  have hkeeps := (h sampleToml ("", [("app_settings", "", .value " # mine" "{ launch_at_login = true }")])
    ("", [("app_settings", "", .table "" [("launch_at_login", "", .value "" "true")])])).2 [.key "app_settings"]
  have hagrees := (TomlEdit.agrees_key (T := sampleToml) _ _ "app_settings").1
    ((TomlEdit.keepsAt_table_iff _ _ _).1 hkeeps)
  rcases hagrees _ _ rfl rfl with (⟨hold, -⟩ | ⟨-, hnew⟩) | hdecor
  · cases hold
  · cases hnew
  · have hlost : "" = " # mine" := Option.some.inj hdecor
    exact absurd hlost (by decide)

end Config
end OpenLogi
