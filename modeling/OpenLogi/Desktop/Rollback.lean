import OpenLogi.Config.Merge
import OpenLogi.Desktop.Inventory
/-!
# Rollback — what a refresh that cannot be saved leaves behind

The configuration is put back and the list was never replaced, but the sessions were already pruned: a device keeps its
session exactly when the list that is not shown would hold its key.  That is said here of the snapshot and of the list
shown: the key is sighted, or a card of it still has its grace.
-/
namespace OpenLogi
namespace Desktop

open OpenLogi.Config (BTreeMap Config)
open OpenLogi.Config.Config (slotConfig slotRoute)
open OpenLogi.Hid (DeviceRoute)

variable {V S : Type}

/-- The snapshot sorted out: what is left of it, and the adopted records. -/
abbrev Sightings (V : Type) := BTreeMap (DeviceRecord V) × BTreeMap (DeviceRecord V)

namespace Sightings

variable (sighted : Sightings V)

def At (inv : String) (record : DeviceRecord V) : Prop := sighted.1[inv]? = some record ∨ sighted.2[inv]? = some record

/-- No key is in both halves. -/
def Apart : Prop := ∀ inv : String, sighted.1[inv]? = none ∨ sighted.2[inv]? = none

def foldedRoutes : List DeviceRoute := (values sighted.1).flatMap (·.stalePairings)

/-- A record of the snapshot has the key. -/
def Sees (key : String) : Prop := ∃ inv record, sighted.At inv record ∧ record.configKey = key

/-- A card of the list shown that the merge counts a miss against: no record of the snapshot is there for it, and it is
not one that goes without grace. -/
def Missed (before : List (DeviceRecord V)) (previous : DeviceRecord V) : Prop :=
  ((∃ record, sighted.At previous.inventoryKey record) → previous.inventoryKey ∈ before.map (·.inventoryKey)) ∧
    leftOut sighted.foldedRoutes previous = false

/-- A card of the key that is not missed, which sets its counter back. -/
def Cleared (key : String) : List (DeviceRecord V) → Prop :=
  Lib.Somewhere fun before previous => previous.configKey = key ∧ ¬sighted.Missed before previous

/-- A card of the key is missed within its grace. -/
def Waits (key : String) (misses : Nat) : List (DeviceRecord V) → Prop :=
  Lib.Somewhere fun before previous => previous.configKey = key ∧ sighted.Missed before previous ∧
    (misses < INVENTORY_MISS_GRACE ∨ sighted.Cleared key before)

variable {sighted} {key : String} {misses : Nat} {before : List (DeviceRecord V)} {previous : DeviceRecord V}

theorem waits_concat : sighted.Waits key misses (before ++ [previous]) ↔ sighted.Waits key misses before ∨
    previous.configKey = key ∧ sighted.Missed before previous ∧
      (misses < INVENTORY_MISS_GRACE ∨ sighted.Cleared key before) :=
  Lib.somewhere_concat _ _ _

theorem cleared_concat : sighted.Cleared key (before ++ [previous]) ↔
    sighted.Cleared key before ∨ previous.configKey = key ∧ ¬sighted.Missed before previous :=
  Lib.somewhere_concat _ _ _

/-- A card of another key, or one that is not missed, waits for nothing. -/
theorem waits_pass (h : ¬(previous.configKey = key ∧ sighted.Missed before previous)) :
    sighted.Waits key misses (before ++ [previous]) ↔ sighted.Waits key misses before :=
  waits_concat.trans (or_iff_left fun hw => h ⟨hw.1, hw.2.1⟩)

end Sightings

/-! ## The loop of the merge -/

def session [Inhabited S] (sessions : BTreeMap (DeviceSession S)) (key : String) : DeviceSession S :=
  sessions[key]?.getD default

section
variable [Inhabited S]

theorem session_clear (sessions : BTreeMap (DeviceSession S)) (key other : String) :
    session (clearInventoryMisses sessions key) other =
      if key = other then { session sessions other with inventoryMisses := 0 } else session sessions other := by
  unfold session clearInventoryMisses
  split
  · rename_i entry h
    rw [BTreeMap.getElem?_insert]
    split
    · rename_i hk
      rw [← hk, h]
      rfl
    · rfl
  · rename_i h
    split
    · rename_i hk
      rw [← hk, h]
      rfl
    · rfl

/-- What the loop knows of each session after some cards. -/
structure Tally (sighted : Sightings V) (start sessions : BTreeMap (DeviceSession S))
    (before : List (DeviceRecord V)) : Prop where
  rest : ∀ key, (session sessions key).rest = (session start key).rest
  low : ∀ key, (session sessions key).inventoryMisses < INVENTORY_MISS_GRACE ∨
    sighted.Waits key (session start key).inventoryMisses before ∨
    ¬sighted.Cleared key before ∧ INVENTORY_MISS_GRACE ≤ (session start key).inventoryMisses
  high : ∀ key, ¬sighted.Cleared key before → INVENTORY_MISS_GRACE ≤ (session start key).inventoryMisses →
    INVENTORY_MISS_GRACE ≤ (session sessions key).inventoryMisses

variable {sighted : Sightings V} {start sessions : BTreeMap (DeviceSession S)} {before : List (DeviceRecord V)}
  {previous : DeviceRecord V}

theorem Tally.init : Tally sighted start start [] := by
  refine ⟨fun _ => rfl, fun key => ?_, fun _ _ h => h⟩
  rcases Nat.lt_or_ge (session start key).inventoryMisses INVENTORY_MISS_GRACE with h | h
  · exact Or.inl h
  · exact Or.inr (Or.inr ⟨Lib.not_somewhere_nil _, h⟩)

theorem Tally.clear (ht : Tally sighted start sessions before) (hmissed : ¬sighted.Missed before previous) :
    Tally sighted start (clearInventoryMisses sessions previous.configKey) (before ++ [previous]) := by
  refine ⟨fun key => ?_, fun key => ?_, fun key hclear hstart => ?_⟩
  · rw [session_clear]
    split <;> exact ht.rest key
  · rw [session_clear]
    by_cases hk : previous.configKey = key
    · rw [if_pos hk]
      exact Or.inl Nat.zero_lt_two
    · rw [if_neg hk, Sightings.waits_concat, Sightings.cleared_concat]
      rcases ht.low key with h | h | ⟨h, hs⟩
      · exact Or.inl h
      · exact Or.inr (Or.inl (Or.inl h))
      · exact Or.inr (Or.inr ⟨fun hc => hc.elim h fun hp => hk hp.1, hs⟩)
  · rw [Sightings.cleared_concat, not_or] at hclear
    rw [session_clear, if_neg fun hk => hclear.2 ⟨hk, hmissed⟩]
    exact ht.high key hclear.1 hstart

/-- The counter of a card that is missed, against its grace. -/
theorem Tally.graced (ht : Tally sighted start sessions before) (hmissed : sighted.Missed before previous) :
    (min 255 ((session sessions previous.configKey).inventoryMisses + 1) ≤ INVENTORY_MISS_GRACE ∨
      sighted.Waits previous.configKey (session start previous.configKey).inventoryMisses before) ↔
        sighted.Waits previous.configKey (session start previous.configKey).inventoryMisses (before ++ [previous]) := by
  rw [Sightings.waits_concat]
  constructor
  · rintro (hgrace | hwaits)
    · by_cases hopen : (session start previous.configKey).inventoryMisses < INVENTORY_MISS_GRACE ∨
          sighted.Cleared previous.configKey before
      · exact Or.inr ⟨rfl, hmissed, hopen⟩
      · rw [not_or, Nat.not_lt] at hopen
        have hhigh := ht.high _ hopen.2 hopen.1
        unfold INVENTORY_MISS_GRACE at hgrace hhigh
        omega
    · exact Or.inl hwaits
  · rintro (hwaits | ⟨-, -, hopen⟩)
    · exact Or.inr hwaits
    · rcases ht.low previous.configKey with hlow | hwaits | ⟨hclear, hstart⟩
      · unfold INVENTORY_MISS_GRACE at hlow ⊢
        left
        omega
      · exact Or.inr hwaits
      · exact absurd hopen (not_or.2 ⟨Nat.not_lt.2 hstart, hclear⟩)

theorem Tally.count (ht : Tally sighted start sessions before) (hmissed : sighted.Missed before previous) :
    Tally sighted start (sessions.insert previous.configKey
      { session sessions previous.configKey with
        inventoryMisses := min 255 ((session sessions previous.configKey).inventoryMisses + 1) })
      (before ++ [previous]) := by
  have hcleared : ∀ key, sighted.Cleared key (before ++ [previous]) ↔ sighted.Cleared key before := by
    intro key
    rw [Sightings.cleared_concat]
    exact or_iff_left fun h => h.2 hmissed
  have hsession : ∀ key, session (sessions.insert previous.configKey
      { session sessions previous.configKey with
        inventoryMisses := min 255 ((session sessions previous.configKey).inventoryMisses + 1) }) key =
      if previous.configKey = key then
        { session sessions key with inventoryMisses := min 255 ((session sessions key).inventoryMisses + 1) }
      else session sessions key := by
    intro key
    rw [session, BTreeMap.getElem?_insert]
    split
    · rename_i hk
      rw [← hk]
      rfl
    · rfl
  refine ⟨fun key => ?_, fun key => ?_, fun key hclear hstart => ?_⟩
  · rw [hsession]
    split <;> exact ht.rest key
  · rw [hsession, hcleared]
    by_cases hk : previous.configKey = key
    · subst hk
      by_cases hopen : (session start previous.configKey).inventoryMisses < INVENTORY_MISS_GRACE ∨
          sighted.Cleared previous.configKey before
      · exact Or.inr (Or.inl (Sightings.waits_concat.2 (Or.inr ⟨rfl, hmissed, hopen⟩)))
      · rw [not_or, Nat.not_lt] at hopen
        exact Or.inr (Or.inr ⟨hopen.2, hopen.1⟩)
    · rw [if_neg hk]
      exact (ht.low key).imp_right (Or.imp_left fun h => Sightings.waits_concat.2 (Or.inl h))
  · rw [hsession]
    have hhigh := ht.high key ((hcleared key).not.1 hclear) hstart
    unfold INVENTORY_MISS_GRACE at hhigh ⊢
    split
    · exact Nat.le_min.2 ⟨by decide, Nat.le_succ_of_le hhigh⟩
    · exact hhigh

/-- What the loop knows after some cards: the sightings not taken yet, the keys listed, and the sessions. -/
structure Listed (sighted : Sightings V) (start : BTreeMap (DeviceSession S)) (before : List (DeviceRecord V))
    (m : Merge V S) : Prop where
  byKey : ∀ inv : String, m.byKey[inv]? = if inv ∈ before.map (·.inventoryKey) then none else sighted.1[inv]?
  adopted : ∀ inv : String, m.adopted[inv]? = if inv ∈ before.map (·.inventoryKey) then none else sighted.2[inv]?
  merged : ∀ key, key ∈ m.merged.map (·.configKey) ↔
    (∃ inv ∈ before.map (·.inventoryKey), ∃ record, sighted.At inv record ∧ record.configKey = key) ∨
      sighted.Waits key (session start key).inventoryMisses before
  tally : Tally sighted start m.sessions before

variable {m : Merge V S}

variable {inv : String} {record : DeviceRecord V}

theorem Sightings.Apart.unique (hapart : sighted.Apart) {a b : DeviceRecord V} (ha : sighted.At inv a)
    (hb : sighted.At inv b) : a = b := by
  rcases hapart inv with h | h
  · rw [Sightings.At, h] at ha hb
    exact Option.some.inj ((ha.resolve_left nofun).symm.trans (hb.resolve_left nofun))
  · rw [Sightings.At, h] at ha hb
    exact Option.some.inj ((ha.resolve_right nofun).symm.trans (hb.resolve_right nofun))

theorem Listed.erased {map map' : BTreeMap (DeviceRecord V)}
    (h : ∀ inv : String, map[inv]? = if inv ∈ before.map (·.inventoryKey) then none else map'[inv]?) (inv : String) :
    (map.erase previous.inventoryKey)[inv]? =
      if inv ∈ (before ++ [previous]).map (·.inventoryKey) then none else map'[inv]? := by
  have hmem : inv ∈ (before ++ [previous]).map (·.inventoryKey) ↔
      inv ∈ before.map (·.inventoryKey) ∨ inv = previous.inventoryKey := by
    rw [List.map_append, List.mem_append, List.map_singleton, List.mem_singleton]
  rw [BTreeMap.getElem?_erase, h]
  by_cases hk : previous.inventoryKey = inv
  · rw [if_pos hk, if_pos (hmem.2 (Or.inr hk.symm))]
  · rw [if_neg hk]
    by_cases hb : inv ∈ before.map (·.inventoryKey)
    · rw [if_pos hb, if_pos (hmem.2 (Or.inl hb))]
    · rw [if_neg hb, if_neg (hmem.not.2 (not_or.2 ⟨hb, Ne.symm hk⟩))]

theorem Listed.kept {map map' : BTreeMap (DeviceRecord V)}
    (h : ∀ inv : String, map[inv]? = if inv ∈ before.map (·.inventoryKey) then none else map'[inv]?)
    (hnone : map[previous.inventoryKey]? = none) (inv : String) :
    map[inv]? = if inv ∈ (before ++ [previous]).map (·.inventoryKey) then none else map'[inv]? := by
  rw [← Listed.erased h, BTreeMap.getElem?_erase]
  split
  · rename_i hk
    rw [← hk, hnone]
  · rfl

/-- A card whose sighting is there: the sighting takes its place. -/
theorem Listed.taken (hl : Listed sighted start before m) (hapart : sighted.Apart)
    (hat : sighted.At previous.inventoryKey record) (hfresh : previous.inventoryKey ∉ before.map (·.inventoryKey))
    (key : String) : key ∈ (m.merged ++ [record]).map (·.configKey) ↔
      (∃ inv ∈ (before ++ [previous]).map (·.inventoryKey), ∃ record, sighted.At inv record ∧ record.configKey = key) ∨
        sighted.Waits key (session start key).inventoryMisses (before ++ [previous]) := by
  have hmissed : ¬sighted.Missed before previous := fun h => hfresh (h.1 ⟨record, hat⟩)
  rw [List.map_append, List.mem_append, hl.merged, List.map_append,
    Sightings.waits_pass fun h => hmissed h.2]
  simp only [List.map_singleton, List.mem_append, List.mem_singleton, or_and_right, exists_or, exists_eq_left]
  have hrecord : (∃ record, sighted.At previous.inventoryKey record ∧ record.configKey = key) ↔
      key = record.configKey := by
    constructor
    · rintro ⟨other, hother, rfl⟩
      rw [hapart.unique hat hother]
    · rintro rfl
      exact ⟨record, hat, rfl⟩
  rw [hrecord]
  exact or_right_comm

theorem Listed.sighted_of_byKey (hl : Listed sighted start before m) (h : m.byKey[inv]? = some record) :
    inv ∉ before.map (·.inventoryKey) ∧ sighted.1[inv]? = some record := by
  rw [hl.byKey] at h
  split at h
  · cases h
  · exact ⟨‹_›, h⟩

theorem Listed.sighted_of_adopted (hl : Listed sighted start before m) (h : m.adopted[inv]? = some record) :
    inv ∉ before.map (·.inventoryKey) ∧ sighted.2[inv]? = some record := by
  rw [hl.adopted] at h
  split at h
  · cases h
  · exact ⟨‹_›, h⟩

/-- A card that finds no sighting: there is none, or an earlier card took it. -/
theorem Listed.gone (hl : Listed sighted start before m) (hkey : m.byKey[inv]? = none)
    (hadopted : m.adopted[inv]? = none) (h : ∃ record, sighted.At inv record) : inv ∈ before.map (·.inventoryKey) := by
  obtain ⟨record, hat⟩ := h
  by_contra hfresh
  rw [hl.byKey, if_neg hfresh] at hkey
  rw [hl.adopted, if_neg hfresh] at hadopted
  rw [Sightings.At, hkey, hadopted] at hat
  exact hat.elim nofun nofun

theorem Listed.passed (hl : Listed sighted start before m) (hkey : m.byKey[previous.inventoryKey]? = none)
    (hadopted : m.adopted[previous.inventoryKey]? = none) (key : String) :
    (∃ inv ∈ (before ++ [previous]).map (·.inventoryKey), ∃ record, sighted.At inv record ∧ record.configKey = key) ↔
      ∃ inv ∈ before.map (·.inventoryKey), ∃ record, sighted.At inv record ∧ record.configKey = key := by
  simp only [List.map_append, List.map_singleton, List.mem_append, List.mem_singleton, or_and_right, exists_or,
    exists_eq_left]
  refine or_iff_left_of_imp ?_
  rintro ⟨record, hat, hrecord⟩
  exact ⟨previous.inventoryKey, hl.gone hkey hadopted ⟨record, hat⟩, record, hat, hrecord⟩

/-- A card that is missed stays listed while it has its grace. -/
theorem Listed.waited (hl : Listed sighted start before m) (hmissed : sighted.Missed before previous)
    (hkey : m.byKey[previous.inventoryKey]? = none) (hadopted : m.adopted[previous.inventoryKey]? = none)
    (key : String) :
    key ∈ (if min 255 ((session m.sessions previous.configKey).inventoryMisses + 1) ≤ INVENTORY_MISS_GRACE then
        m.merged ++ [previous] else m.merged).map (·.configKey) ↔
      (∃ inv ∈ (before ++ [previous]).map (·.inventoryKey), ∃ record, sighted.At inv record ∧ record.configKey = key) ∨
        sighted.Waits key (session start key).inventoryMisses (before ++ [previous]) := by
  have hgrace := hl.tally.graced hmissed
  rw [hl.passed hkey hadopted]
  by_cases hk : previous.configKey = key
  · subst hk
    split
    · rename_i hm
      refine iff_of_true ?_ (Or.inr (hgrace.1 (Or.inl hm)))
      rw [List.map_append, List.mem_append]
      exact Or.inr (List.mem_singleton.2 rfl)
    · rename_i hm
      rw [hl.merged, ← hgrace, or_iff_right hm]
  · rw [Sightings.waits_pass fun h => hk h.1]
    split
    · rw [List.map_append, List.mem_append, List.map_singleton, List.mem_singleton, or_iff_left (Ne.symm hk)]
      exact hl.merged key
    · exact hl.merged key

theorem Listed.visit (hl : Listed sighted start before m) (hapart : sighted.Apart) (previous : DeviceRecord V) :
    Listed sighted start (before ++ [previous]) (m.visit sighted.foldedRoutes previous) := by
  unfold Merge.visit
  cases hkey : m.byKey[previous.inventoryKey]? with
  | some record =>
    obtain ⟨hfresh, hat⟩ := hl.sighted_of_byKey hkey
    have hadopted : m.adopted[previous.inventoryKey]? = none := by
      rw [hl.adopted, if_neg hfresh]
      exact (hapart _).resolve_left (by rw [hat]; nofun)
    have hmissed : ¬sighted.Missed before previous := fun h => hfresh (h.1 ⟨record, Or.inl hat⟩)
    simp only [hkey]
    exact ⟨Listed.erased hl.byKey, Listed.kept hl.adopted hadopted, hl.taken hapart (Or.inl hat) hfresh,
      hl.tally.clear hmissed⟩
  | none =>
    cases hadopted : m.adopted[previous.inventoryKey]? with
    | some record =>
      obtain ⟨hfresh, hat⟩ := hl.sighted_of_adopted hadopted
      have hmissed : ¬sighted.Missed before previous := fun h => hfresh (h.1 ⟨record, Or.inr hat⟩)
      simp only [hkey, hadopted]
      exact ⟨Listed.kept hl.byKey hkey, Listed.erased hl.adopted, hl.taken hapart (Or.inr hat) hfresh,
        hl.tally.clear hmissed⟩
    | none =>
      simp only [hkey, hadopted]
      by_cases hleft : leftOut sighted.foldedRoutes previous = true
      · have hmissed : ¬sighted.Missed before previous := fun h => Bool.eq_false_iff.1 h.2 hleft
        rw [if_pos hleft]
        refine ⟨Listed.kept hl.byKey hkey, Listed.kept hl.adopted hadopted, fun key => ?_, hl.tally.clear hmissed⟩
        rw [hl.merged, hl.passed hkey hadopted, Sightings.waits_pass fun h => hmissed h.2]
      · have hmissed : sighted.Missed before previous := ⟨hl.gone hkey hadopted, Bool.eq_false_iff.2 hleft⟩
        rw [if_neg hleft]
        exact ⟨Listed.kept hl.byKey hkey, Listed.kept hl.adopted hadopted, hl.waited hmissed hkey hadopted,
          hl.tally.count hmissed⟩

theorem Listed.visits (hapart : sighted.Apart) : ∀ (cards : List (DeviceRecord V)) {before : List (DeviceRecord V)}
    {m : Merge V S}, Listed sighted start before m →
      Listed sighted start (before ++ cards) (cards.foldl (Merge.visit sighted.foldedRoutes) m)
  | [], before, m, hl => by
    rw [List.append_nil]
    exact hl
  | previous :: cards, before, m, hl => by
    rw [List.append_cons, List.foldl_cons]
    exact Listed.visits hapart cards (hl.visit hapart previous)

theorem Listed.init (sighted : Sightings V) (start : BTreeMap (DeviceSession S)) :
    Listed sighted start [] { byKey := sighted.1, adopted := sighted.2, sessions := start } := by
  refine ⟨fun _ => rfl, fun _ => rfl, fun key => ?_, Tally.init⟩
  refine iff_of_false List.not_mem_nil ?_
  rintro (⟨inv, hinv, -⟩ | h)
  · cases hinv
  · exact Lib.not_somewhere_nil _ h

omit [Inhabited S] in
theorem mem_values {α : Type} {map : BTreeMap α} {value : α} :
    value ∈ values map ↔ ∃ key : String, map[key]? = some value := by
  rw [values, List.mem_map]
  constructor
  · rintro ⟨⟨key, value⟩, hmem, rfl⟩
    exact ⟨key, Std.ExtTreeMap.mem_toList_iff_getElem?_eq_some.1 hmem⟩
  · rintro ⟨key, hkey⟩
    exact ⟨(key, value), Std.ExtTreeMap.mem_toList_iff_getElem?_eq_some.2 hkey, rfl⟩

/-- **The keys of a merged list**: those the snapshot sights, and those that wait within their grace. -/
theorem Listed.keys {records : List (DeviceRecord V)} (hl : Listed sighted start records m) (key : String) :
    key ∈ (m.merged ++ values m.byKey ++ values m.adopted).map (·.configKey) ↔
      sighted.Sees key ∨ sighted.Waits key (session start key).inventoryMisses records := by
  rw [List.map_append, List.mem_append, List.map_append, List.mem_append, hl.merged]
  have hleft : ∀ record, (record ∈ values m.byKey ∨ record ∈ values m.adopted) ↔
      ∃ inv, inv ∉ records.map (·.inventoryKey) ∧ sighted.At inv record := by
    intro record
    rw [mem_values, mem_values, ← exists_or]
    refine exists_congr fun inv => ?_
    rw [hl.byKey, hl.adopted]
    by_cases hinv : inv ∈ records.map (·.inventoryKey)
    · rw [if_pos hinv, if_pos hinv]
      exact iff_of_false (fun h => h.elim nofun nofun) fun h => h.1 hinv
    · rw [if_neg hinv, if_neg hinv]
      exact (and_iff_right hinv).symm
  constructor
  · rintro (((⟨inv, -, record, hat, hkey⟩ | hwaits) | hmem) | hmem)
    · exact Or.inl ⟨inv, record, hat, hkey⟩
    · exact Or.inr hwaits
    · obtain ⟨record, hrecord, hkey⟩ := List.mem_map.1 hmem
      obtain ⟨inv, -, hat⟩ := (hleft record).1 (Or.inl hrecord)
      exact Or.inl ⟨inv, record, hat, hkey⟩
    · obtain ⟨record, hrecord, hkey⟩ := List.mem_map.1 hmem
      obtain ⟨inv, -, hat⟩ := (hleft record).1 (Or.inr hrecord)
      exact Or.inl ⟨inv, record, hat, hkey⟩
  · rintro (⟨inv, record, hat, hkey⟩ | hwaits)
    · by_cases hinv : inv ∈ records.map (·.inventoryKey)
      · exact Or.inl (Or.inl (Or.inl ⟨inv, hinv, record, hat, hkey⟩))
      · rcases (hleft record).2 ⟨inv, hinv, hat⟩ with hmem | hmem
        · exact Or.inl (Or.inr (List.mem_map.2 ⟨record, hmem, hkey⟩))
        · exact Or.inr (List.mem_map.2 ⟨record, hmem, hkey⟩)
    · exact Or.inl (Or.inl (Or.inr hwaits))

end

/-! ## The snapshot, sorted out -/

theorem Sightings.Apart.erase {byKey adopted : BTreeMap (DeviceRecord V)}
    (h : Sightings.Apart (byKey, adopted)) (key : String) : Sightings.Apart (byKey.erase key, adopted) := by
  intro inv
  refine (h inv).imp_left fun hnone => ?_
  rw [BTreeMap.getElem?_erase, hnone, ite_self]

theorem Sightings.Apart.adopt {byKey adopted : BTreeMap (DeviceRecord V)} (h : Sightings.Apart (byKey, adopted))
    {key : String} (hkey : byKey[key]? = none) (record : DeviceRecord V) :
    Sightings.Apart (byKey, adopted.insert key record) := by
  intro inv
  by_cases hk : key = inv
  · exact Or.inl (hk ▸ hkey)
  · refine (h inv).imp_right fun hnone => ?_
    rw [BTreeMap.getElem?_insert, if_neg hk, hnone]

theorem apart_adoptTransient (config : Config V) (records : List (DeviceRecord V)) {maps : Sightings V}
    (h : maps.Apart) (transient : String × Option String) :
    Sightings.Apart (adoptTransient config records maps transient) := by
  obtain ⟨byKey, adopted⟩ := maps
  obtain ⟨key, wirePid⟩ := transient
  simp only [adoptTransient]
  split
  · exact h
  · split
    · split
      · exact h
      · split
        · refine Sightings.Apart.adopt ((h.erase _).erase _) ?_ _
          rw [BTreeMap.getElem?_erase, BTreeMap.getElem?_erase, if_pos rfl, ite_self]
        · exact h.erase _
    · split
      · exact h.erase _
      · exact h
    · exact h

theorem apart_sightings (config : Config V) (records newList : List (DeviceRecord V)) :
    Sightings.Apart (sightings config records newList) := by
  refine Lib.foldl_keeps Sightings.Apart (fun _ transient h => apart_adoptTransient config records h transient) _ _ ?_
  exact fun _ => Or.inr rfl

/-! ## A refresh that cannot be saved -/

section
variable [Inhabited S]

theorem rest_swept (records : List (DeviceRecord V)) (sessions : BTreeMap (DeviceSession S)) (key : String) :
    (session
      (records.foldl (fun sessions record => clearInventoryMisses sessions record.configKey) sessions) key).rest =
      (session sessions key).rest := by
  refine Lib.foldl_keeps (fun swept => (session swept key).rest = (session sessions key).rest) ?_ records sessions rfl
  intro swept record h
  rw [session_clear]
  split <;> exact h

theorem session_retain (sessions : BTreeMap (DeviceSession S)) (live : List String) (key : String) :
    session (sessions.filter fun key _ => live.contains key) key =
      if key ∈ live then session sessions key else default := by
  unfold session
  rw [Std.ExtTreeMap.getElem?_filter']
  by_cases hk : key ∈ live
  · rw [if_pos hk]
    cases sessions[key]? with
    | none => rfl
    | some entry => rw [Option.filter_some_pos (p := fun _ => live.contains key) (List.contains_iff_mem.2 hk)]
  · rw [if_neg hk]
    cases sessions[key]? with
    | none => rfl
    | some entry =>
      rw [Option.filter_some_neg (p := fun _ => live.contains key)
        (Bool.eq_false_iff.2 (mt List.contains_iff_mem.1 hk))]
      rfl

/-- **A merge keeps the sessions of the keys it lists**, and those only. -/
theorem rest_mergeInventorySnapshot (order : List (DeviceRecord V) → List (DeviceRecord V)) (s : AppState V S)
    (newList : List (DeviceRecord V)) (sighted : Sightings V)
    (hsighted : sighted = sightings s.config.current s.devices.records newList) (key : String) :
    (sighted.Sees key ∨ sighted.Waits key (session s.devices.sessions key).inventoryMisses s.devices.records →
      (session (mergeInventorySnapshot order s newList).1.devices.sessions key).rest =
        (session s.devices.sessions key).rest) ∧
    (¬(sighted.Sees key ∨ sighted.Waits key (session s.devices.sessions key).inventoryMisses s.devices.records) →
      (session (mergeInventorySnapshot order s newList).1.devices.sessions key).rest = default) := by
  have hapart : sighted.Apart := hsighted ▸ apart_sightings _ _ _
  obtain ⟨byKey, adopted⟩ := sighted
  have hl : Listed (byKey, adopted) s.devices.sessions s.devices.records
      (s.devices.records.foldl (Merge.visit ((values byKey).flatMap (·.stalePairings)))
        { byKey, adopted, sessions := s.devices.sessions }) :=
    Listed.visits hapart s.devices.records (Listed.init (byKey, adopted) s.devices.sessions)
  rw [← hl.keys]
  simp only [mergeInventorySnapshot, ← hsighted]
  refine ⟨fun hlive => ?_, fun hlive => ?_⟩
  · rw [session_retain, if_pos hlive]
    exact (rest_swept _ _ key).trans (hl.tally.rest key)
  · rw [session_retain, if_neg hlive]
    rfl

/-- What a refresh must leave as it was, the miss counters aside. -/
structure Unchanged (s s' : AppState V S) : Prop where
  config : s'.config.current = s.config.current
  records : s'.devices.records = s.devices.records
  selected : s'.devices.selected = s.devices.selected
  sessions : ∀ key, (session s'.devices.sessions key).rest = (session s.devices.sessions key).rest

variable [Inhabited V] [DecidableEq V]

/-- The configuration that a refresh adopts routes into. -/
def adoptedConfig (view : View V S) (s : AppState V S) : Config V :=
  (adoptRoutes s.config.current (view.buildDeviceList s.config.current)).2

/-- What it sights, with the routes adopted. -/
def adoptedSightings (view : View V S) (s : AppState V S) : Sightings V :=
  sightings (adoptedConfig view s) s.devices.records (view.buildDeviceList (adoptedConfig view s))

def Listable (view : View V S) (s : AppState V S) (key : String) : Prop :=
  (adoptedSightings view s).Sees key ∨
    (adoptedSightings view s).Waits key (session s.devices.sessions key).inventoryMisses s.devices.records

/-- A refresh whose save fails puts the configuration back, and nothing else. -/
theorem refreshInventories_of_failed (view : View V S) (written : Bool) (s : AppState V S)
    (hadopted : (adoptRoutes s.config.current (view.buildDeviceList s.config.current)).1 = true)
    (hfailed : s.config.lands written = false) :
    refreshInventories view written s =
      { config := { s.config with current := s.config.persisted }
        devices := (mergeInventorySnapshot view.order
          { s with config := { s.config with current := adoptedConfig view s } }
          (view.buildDeviceList (adoptedConfig view s))).1.devices } := by
  have hpersist : ∀ c : ConfigState V, c.persistence = s.config.persistence →
      c.persist written = (false, { c with current := c.persisted }) := by
    intro c hc
    rw [ConfigState.persist, if_neg]
    rw [ConfigState.lands, hc]
    exact Bool.eq_false_iff.1 hfailed
  unfold refreshInventories
  simp only [hadopted, if_true]
  rw [hpersist]
  · rfl
  · rfl

/-- **A refresh whose save fails**, part by part. -/
theorem refreshInventories_failed (view : View V S) (written : Bool) (s : AppState V S)
    (hadopted : (adoptRoutes s.config.current (view.buildDeviceList s.config.current)).1 = true)
    (hfailed : s.config.lands written = false) :
    (refreshInventories view written s).config.current = s.config.persisted ∧
    (refreshInventories view written s).devices.records = s.devices.records ∧
    (refreshInventories view written s).devices.selected = s.devices.selected ∧
    ∀ key,
      (Listable view s key → (session (refreshInventories view written s).devices.sessions key).rest =
        (session s.devices.sessions key).rest) ∧
      (¬Listable view s key →
        (session (refreshInventories view written s).devices.sessions key).rest = default) := by
  have hmerge := rest_mergeInventorySnapshot view.order
    { s with config := { s.config with current := adoptedConfig view s } }
    (view.buildDeviceList (adoptedConfig view s)) (adoptedSightings view s) rfl
  rw [refreshInventories_of_failed view written s hadopted hfailed]
  exact ⟨rfl, rfl, rfl, hmerge⟩

/-- **A refresh that cannot be saved leaves all as it was exactly when** nothing was waiting to be saved and every
device whose session holds something is sighted under its key, or waits within its grace. -/
theorem failed_adoption_unchanged_iff (view : View V S) (written : Bool) (s : AppState V S)
    (hadopted : (adoptRoutes s.config.current (view.buildDeviceList s.config.current)).1 = true)
    (hfailed : s.config.lands written = false) :
    Unchanged s (refreshInventories view written s) ↔
      s.config.persisted = s.config.current ∧
        ∀ key, (session s.devices.sessions key).rest ≠ default → Listable view s key := by
  obtain ⟨hconfig, hrecords, hselected, hsessions⟩ := refreshInventories_failed view written s hadopted hfailed
  constructor
  · intro h
    refine ⟨hconfig.symm.trans h.config, fun key hkey => ?_⟩
    by_contra hlist
    exact hkey ((h.sessions key).symm.trans ((hsessions key).2 hlist))
  · rintro ⟨hsaved, hlisted⟩
    refine ⟨hconfig.trans hsaved, hrecords, hselected, fun key => ?_⟩
    by_cases hlist : Listable view s key
    · exact (hsessions key).1 hlist
    · rw [(hsessions key).2 hlist]
      by_contra hrest
      exact hlist (hlisted key (Ne.symm hrest))

end

/-! ## A mouse on a slot -/

/-- The mouse of a slot whose entry waits to be adopted. -/
def slotMouse : PairedDevice Nat where
  modelKey := "2b034"
  modelName := "MX Master 3"
  model := 0
  modelId := some 0x4082
  serialNumber := some "m1"
  unitId := Core.zeroUnit
  route := some (.bolt "a1b2" 2)
  kind := .mouse
  capabilities := some 7
  slot := 2
  online := true

def slotView : View Nat Nat where
  buildDeviceList config := [pairedRecord config slotMouse]
  order := id
  shown s _ := s

/-- The app with a session for the mouse, after some refreshes that could not be saved. -/
def retried (misses : Nat) : AppState Nat Nat where
  config := ⟨slotConfig { dpi := some 800 }, slotConfig { dpi := some 800 }, .userFile⟩
  devices :=
    { selected := some 0
      records := slotView.buildDeviceList (slotConfig { dpi := some 800 })
      sessions := (∅ : BTreeMap (DeviceSession Nat)).insert slotRoute ⟨misses, 1⟩ }

theorem failed_adoption_unchanged_iff_slot :
    Unchanged (retried 0) (refreshInventories slotView false (retried 0)) ↔
      (retried 0).config.persisted = (retried 0).config.current ∧
        ∀ key, (session (retried 0).devices.sessions key).rest ≠ default → Listable slotView (retried 0) key :=
  failed_adoption_unchanged_iff slotView false (retried 0) (by decide +kernel) rfl

/-- The third refresh in a row that cannot be saved drops the session of the mouse that is shown. -/
theorem failed_save_drops_session :
    ¬ ∀ (view : View Nat Nat) (written : Bool) (s : AppState Nat Nat),
      (adoptRoutes s.config.current (view.buildDeviceList s.config.current)).1 = true →
        s.config.lands written = false → Unchanged s (refreshInventories view written s) := by
  intro h
  have hkept := (h slotView false (retried 2) (by decide +kernel) rfl).sessions slotRoute
  have hdropped : (session (refreshInventories slotView false (retried 2)).devices.sessions slotRoute).rest = 0 := by
    decide +kernel
  have hbefore : (session (retried 2).devices.sessions slotRoute).rest = 1 := by
    decide +kernel
  rw [hdropped, hbefore] at hkept
  cases hkept

end Desktop
end OpenLogi
