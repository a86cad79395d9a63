import OpenLogi.Inventory.Pass
import OpenLogi.Lib.Sweep
/-!
# Retention — how long a probe result is kept

The cache of probe results, how often each entry was missed, and which entries each node contributed.  A node whose
probe was deferred was not asked, so what is its own, or may be, is neither seen nor missed.
-/
namespace OpenLogi
namespace Inventory

open Lib (Map)

variable {K V : Type}

inductive CacheKey (K : Type) where
  | bolt (unitId : UInt32)
  | unifyingSlot (receiverUid : String) (slot : UInt8)
  | direct (node : K)
  deriving DecidableEq

/-- Only what a Bolt receiver pairs is persisted. -/
def isPersistable : CacheKey K → Bool
  | .bolt _ => true
  | .unifyingSlot _ _ => false
  | .direct _ => false

/-- Passes that a device may be missing before its entry is evicted. -/
def cacheMissGrace : Nat := 3

def ProbeVerdict.isDeferred : ProbeVerdict → Bool
  | .deferred => true
  | .failed => false
  | .aliveButIncomplete => false
  | .healthy _ => false

/-- What a probed device contributes to the cache. -/
inductive CacheOutcome (K V : Type) where
  | fresh (key : CacheKey K) (cached : V)
  | update (key : CacheKey K) (cached : V)
  | seen (key : CacheKey K)
  | unkeyed

def CacheOutcome.key : CacheOutcome K V → Option (CacheKey K)
  | .fresh key _ => some key
  | .update key _ => some key
  | .seen key => some key
  | .unkeyed => none

structure NodeProbe (K V : Type) where
  verdict : ProbeVerdict
  outcomes : List (CacheOutcome K V)

/-- The entries that a probe contributes. -/
def NodeProbe.keys (probe : NodeProbe K V) : List (CacheKey K) := probe.outcomes.filterMap CacheOutcome.key

/-- One enumeration: the nodes that are listed, and their probes in the order they are settled. -/
structure Enumeration (K V : Type) where
  seenNodes : List K
  probes : List (K × NodeProbe K V)
  listed : ∀ probed ∈ probes, probed.1 ∈ seenNodes

structure ProbeCache (K V : Type) where
  cache : Map (CacheKey K) V := .empty
  misses : Map (CacheKey K) Nat := .empty
  nodeCacheKeys : Map K (List (CacheKey K)) := .empty
  cacheDirty : Bool := false

namespace ProbeCache

variable [DecidableEq K]

/-- The entries that no probed node has contributed. -/
def unattributedCacheKeys (s : ProbeCache K V) : List (CacheKey K) :=
  s.cache.keys.filter fun key => !s.nodeCacheKeys.values.any fun keys => key ∈ keys

/-- One node's probe: a deferred one freezes what the node has, or what no node has; another one records what it
contributes, once the node was healthy. -/
def holdOrNoteCacheKeys (s : ProbeCache K V) (node : K) (probe : NodeProbe K V) (frozen : List (CacheKey K)) :
    ProbeCache K V × List (CacheKey K) :=
  if probe.verdict.isDeferred then
    match s.nodeCacheKeys.get node with
    | some keys => (s, frozen ++ keys)
    | none => (s, frozen ++ s.unattributedCacheKeys)
  else if !probe.verdict.isHealthy && (s.nodeCacheKeys.get node).isNone then (s, frozen)
  else
    ({ s with nodeCacheKeys := s.nodeCacheKeys.put node ((s.nodeCacheKeys.get node).getD [] ++ probe.keys) }, frozen)

def applyOutcome (s : ProbeCache K V) : CacheOutcome K V → ProbeCache K V
  | .fresh key cached => { s with cacheDirty := s.cacheDirty || isPersistable key, cache := s.cache.put key cached }
  | .update key cached => { s with cache := s.cache.put key cached }
  | .seen _ => s
  | .unkeyed => s

/-- The outcomes of a pass, and the keys that were seen. -/
def applyOutcomes (s : ProbeCache K V) (outcomes : List (CacheOutcome K V)) : ProbeCache K V × List (CacheKey K) :=
  (outcomes.foldl applyOutcome s, outcomes.filterMap CacheOutcome.key)

/-- An entry is missed once more, and evicted when that is too often. -/
def age (s : ProbeCache K V) (key : CacheKey K) : ProbeCache K V :=
  let misses := (s.misses.get key).getD 0 + 1
  if cacheMissGrace < misses then
    { cache := s.cache.erase key
      misses := s.misses.erase key
      nodeCacheKeys := s.nodeCacheKeys.mapValues fun _ keys => keys.filter (· ≠ key)
      cacheDirty := s.cacheDirty || isPersistable key }
  else { s with misses := s.misses.put key misses }

def evictUnseen (s : ProbeCache K V) (seen frozen : List (CacheKey K)) : ProbeCache K V :=
  let s := { s with misses := s.misses.filter fun row => row.1 ∉ seen }
  (s.cache.keys.filter fun key => key ∉ seen && key ∉ frozen).foldl age s

/-- Only listed nodes keep what they contributed. -/
def retainNodes (s : ProbeCache K V) (seenNodes : List K) : ProbeCache K V :=
  { s with nodeCacheKeys := s.nodeCacheKeys.filter fun row => row.1 ∈ seenNodes }

/-- The probes of a pass, and what they freeze. -/
def settleProbes (s : ProbeCache K V) (probes : List (K × NodeProbe K V)) : ProbeCache K V × List (CacheKey K) :=
  probes.foldl (fun settled probed => settled.1.holdOrNoteCacheKeys probed.1 probed.2 settled.2) (s, [])

/-- The cache's part of one enumeration. -/
def enumerate (s : ProbeCache K V) (pass : Enumeration K V) : ProbeCache K V :=
  let (s, frozen) := (s.retainNodes pass.seenNodes).settleProbes pass.probes
  let (s, seen) := s.applyOutcomes (pass.probes.flatMap fun probed => probed.2.outcomes)
  s.evictUnseen seen frozen

/-! ## Aging -/

variable {key other : CacheKey K} {s : ProbeCache K V} {node : K}

theorem get_age_of_ne (s : ProbeCache K V) (h : key ≠ other) :
    (s.age key).cache.get other = s.cache.get other ∧ (s.age key).misses.get other = s.misses.get other := by
  unfold age
  dsimp only
  split
  · exact ⟨(Map.get_erase _ _ _).trans (if_neg h), (Map.get_erase _ _ _).trans (if_neg h)⟩
  · exact ⟨rfl, (Map.get_put _ _ _ _).trans (if_neg h)⟩

theorem get_age_self (s : ProbeCache K V) (key : CacheKey K) :
    (cacheMissGrace < (s.misses.get key).getD 0 + 1 ∧ (s.age key).cache.get key = none ∧
        (s.age key).misses.get key = none) ∨
      (s.misses.get key).getD 0 + 1 ≤ cacheMissGrace ∧ (s.age key).cache.get key = s.cache.get key ∧
        (s.age key).misses.get key = some ((s.misses.get key).getD 0 + 1) := by
  unfold age
  dsimp only
  by_cases hgrace : cacheMissGrace < (s.misses.get key).getD 0 + 1
  · rw [if_pos hgrace]
    exact .inl ⟨hgrace, (Map.get_erase _ _ _).trans (if_pos rfl), (Map.get_erase _ _ _).trans (if_pos rfl)⟩
  · rw [if_neg hgrace]
    exact .inr ⟨Nat.le_of_not_lt hgrace, rfl, (Map.get_put _ _ _ _).trans (if_pos rfl)⟩

theorem foldl_age_of_not_mem : ∀ {missing : List (CacheKey K)} (s : ProbeCache K V),
    key ∉ missing → (missing.foldl age s).cache.get key = s.cache.get key ∧
      (missing.foldl age s).misses.get key = s.misses.get key
  | [], _, _ => ⟨rfl, rfl⟩
  | other :: missing, s, h => by
    rw [List.mem_cons, not_or] at h
    obtain ⟨hcache, hmisses⟩ := foldl_age_of_not_mem (s.age other) h.2
    obtain ⟨hcache', hmisses'⟩ := s.get_age_of_ne (Ne.symm h.1)
    exact ⟨hcache.trans hcache', hmisses.trans hmisses'⟩

/-- **A missing entry is aged once.** -/
theorem foldl_age_of_mem : ∀ {missing : List (CacheKey K)} (s : ProbeCache K V),
    missing.Nodup → key ∈ missing →
      (cacheMissGrace < (s.misses.get key).getD 0 + 1 ∧ (missing.foldl age s).cache.get key = none ∧
          (missing.foldl age s).misses.get key = none) ∨
        (s.misses.get key).getD 0 + 1 ≤ cacheMissGrace ∧ (missing.foldl age s).cache.get key = s.cache.get key ∧
          (missing.foldl age s).misses.get key = some ((s.misses.get key).getD 0 + 1)
  | [], _, _, h => by cases h
  | other :: missing, s, hnodup, h => by
    rw [List.nodup_cons] at hnodup
    rw [List.foldl_cons]
    by_cases hother : other = key
    · subst hother
      obtain ⟨hcache, hmisses⟩ := foldl_age_of_not_mem (s.age other) hnodup.1
      rw [hcache, hmisses]
      exact s.get_age_self other
    · obtain ⟨hcache, hmisses⟩ := s.get_age_of_ne hother
      have hrest := foldl_age_of_mem (s.age other) hnodup.2 ((List.mem_cons.1 h).resolve_left (Ne.symm hother))
      rw [hcache, hmisses] at hrest
      exact hrest

/-- A node has an entry on record. -/
def Claims (s : ProbeCache K V) (node : K) (key : CacheKey K) : Prop :=
  ∃ keys, s.nodeCacheKeys.get node = some keys ∧ key ∈ keys

theorem cached_of_age (h : ((s.age other).cache.get key).isSome) :
    (s.cache.get key).isSome := by
  by_cases hother : other = key
  · subst hother
    rcases s.get_age_self other with ⟨-, hcache, -⟩ | ⟨-, hcache, -⟩
    · rw [hcache] at h
      cases h
    · rwa [hcache] at h
  · rwa [(s.get_age_of_ne hother).1] at h

theorem cached_of_foldl_age : ∀ {missing : List (CacheKey K)} {s : ProbeCache K V},
    ((missing.foldl age s).cache.get key).isSome → (s.cache.get key).isSome
  | [], _, h => h
  | _ :: _, _, h => cached_of_age (cached_of_foldl_age h)

theorem claims_age (hclaims : s.Claims node key) (h : other ≠ key ∨ ((s.age other).cache.get key).isSome) :
    (s.age other).Claims node key := by
  obtain ⟨keys, hkeys, hkey⟩ := hclaims
  unfold age at h ⊢
  dsimp only at h ⊢
  by_cases hgrace : cacheMissGrace < (s.misses.get other).getD 0 + 1
  · rw [if_pos hgrace] at h ⊢
    have hne : key ≠ other := by
      rintro rfl
      rcases h with h | h
      · exact h rfl
      · rw [Map.get_erase, if_pos rfl] at h
        cases h
    refine ⟨keys.filter (· ≠ other), ?_, List.mem_filter.2 ⟨hkey, decide_eq_true hne⟩⟩
    rw [Map.get_mapValues, hkeys]
    rfl
  · rw [if_neg hgrace]
    exact ⟨keys, hkeys, hkey⟩

/-- **An entry that was not missing, or is kept, stays on record.** -/
theorem claims_foldl_age : ∀ {missing : List (CacheKey K)} {s : ProbeCache K V},
    s.Claims node key → key ∉ missing ∨ ((missing.foldl age s).cache.get key).isSome →
      (missing.foldl age s).Claims node key
  | [], _, hclaims, _ => hclaims
  | other :: missing, s, hclaims, h => by
    rw [List.foldl_cons] at h ⊢
    rcases h with h | h
    · rw [List.mem_cons, not_or] at h
      exact claims_foldl_age (claims_age hclaims (.inl (Ne.symm h.1))) (.inl h.2)
    · exact claims_foldl_age (claims_age hclaims (.inr (cached_of_foldl_age h))) (.inr h)

/-! ## Settling the probes -/

theorem holdOrNoteCacheKeys_keeps (s : ProbeCache K V) (node : K) (probe : NodeProbe K V) (frozen : List (CacheKey K)) :
    (s.holdOrNoteCacheKeys node probe frozen).1.cache = s.cache ∧
      (s.holdOrNoteCacheKeys node probe frozen).1.misses = s.misses := by
  unfold holdOrNoteCacheKeys
  split
  · split <;> exact ⟨rfl, rfl⟩
  · split <;> exact ⟨rfl, rfl⟩

theorem settleProbes_concat (s : ProbeCache K V) (probes : List (K × NodeProbe K V)) (probed : K × NodeProbe K V) :
    s.settleProbes (probes ++ [probed]) =
      (s.settleProbes probes).1.holdOrNoteCacheKeys probed.1 probed.2 (s.settleProbes probes).2 :=
  List.foldl_append

theorem settleProbes_keeps (s : ProbeCache K V) (probes : List (K × NodeProbe K V)) :
    (s.settleProbes probes).1.cache = s.cache ∧ (s.settleProbes probes).1.misses = s.misses := by
  induction probes using List.reverseRecOn with
  | nil => exact ⟨rfl, rfl⟩
  | append_singleton probes probed ih =>
    rw [settleProbes_concat]
    obtain ⟨hcache, hmisses⟩ := holdOrNoteCacheKeys_keeps (s.settleProbes probes).1 probed.1 probed.2
      (s.settleProbes probes).2
    exact ⟨hcache.trans ih.1, hmisses.trans ih.2⟩

/-- A probe establishes which entries are the node's: it was healthy, or it ran when they were known. -/
def Notes (s : ProbeCache K V) (probed : K × NodeProbe K V) : Prop :=
  probed.2.verdict.isDeferred = false ∧
    (probed.2.verdict.isHealthy = true ∨ (s.nodeCacheKeys.get probed.1).isSome)

/-- **What one probe puts on record.** -/
theorem claims_holdOrNoteCacheKeys (s : ProbeCache K V) (probed : K × NodeProbe K V) (frozen : List (CacheKey K)) :
    (s.holdOrNoteCacheKeys probed.1 probed.2 frozen).1.Claims node key ↔
      s.Claims node key ∨ probed.1 = node ∧ s.Notes probed ∧ key ∈ probed.2.keys := by
  unfold holdOrNoteCacheKeys Notes
  cases hdeferred : probed.2.verdict.isDeferred with
  | true =>
    have hsame : (s.holdOrNoteCacheKeys probed.1 probed.2 frozen).1 = s := by
      unfold holdOrNoteCacheKeys
      rw [if_pos hdeferred]
      split <;> rfl
    unfold holdOrNoteCacheKeys at hsame
    rw [hdeferred] at hsame
    rw [hsame]
    simp
  | false =>
    rw [if_neg (by simp)]
    by_cases hskip : (!probed.2.verdict.isHealthy && (s.nodeCacheKeys.get probed.1).isNone) = true
    · rw [if_pos hskip]
      rw [Bool.and_eq_true, Bool.not_eq_true', Option.isNone_iff_eq_none] at hskip
      simp [hskip.1, hskip.2]
    · rw [if_neg hskip]
      have hnotes : probed.2.verdict.isHealthy = true ∨ (s.nodeCacheKeys.get probed.1).isSome := by
        cases hhealthy : probed.2.verdict.isHealthy with
        | true => exact .inl rfl
        | false =>
          rw [hhealthy, Bool.not_false, Bool.true_and] at hskip
          exact .inr (Option.isSome_iff_ne_none.2 fun hnone => hskip (by rw [hnone]; rfl))
      unfold Claims
      dsimp only
      by_cases hnode : probed.1 = node
      · subst hnode
        rw [Map.get_put, if_pos rfl]
        cases hget : s.nodeCacheKeys.get probed.1 with
        | none =>
          have hhealthy := hnotes.resolve_right (by simp [hget])
          simp [hhealthy]
        | some keys => simp [List.mem_append]
      · rw [Map.get_put, if_neg hnode]
        simp [hnode]

theorem mem_unattributedCacheKeys :
    key ∈ s.unattributedCacheKeys ↔ (s.cache.get key).isSome ∧ ∀ node, ¬s.Claims node key := by
  unfold unattributedCacheKeys
  rw [List.mem_filter, Map.mem_keys]
  refine and_congr_right fun _ => ?_
  rw [Bool.not_eq_true', List.any_eq_false]
  constructor
  · rintro h node ⟨keys, hkeys, hkey⟩
    exact h keys (Map.mem_values.2 ⟨node, hkeys⟩) (decide_eq_true hkey)
  · intro h keys hkeys hkey
    obtain ⟨node, hnode⟩ := Map.mem_values.1 hkeys
    exact h node ⟨keys, hnode, of_decide_eq_true hkey⟩

/-- A probe was deferred, and the entry is the node's, or may be: the node has no record, and nobody has the entry. -/
def HoldsAt (s : ProbeCache K V) (key : CacheKey K) (probed : K × NodeProbe K V) : Prop :=
  probed.2.verdict.isDeferred = true ∧ (s.Claims probed.1 key ∨
    s.nodeCacheKeys.get probed.1 = none ∧ (s.cache.get key).isSome ∧ ∀ node, ¬s.Claims node key)

theorem mem_frozen_holdOrNoteCacheKeys (s : ProbeCache K V) (probed : K × NodeProbe K V) (frozen : List (CacheKey K))
    (key : CacheKey K) :
    key ∈ (s.holdOrNoteCacheKeys probed.1 probed.2 frozen).2 ↔ key ∈ frozen ∨ s.HoldsAt key probed := by
  unfold holdOrNoteCacheKeys HoldsAt
  cases hdeferred : probed.2.verdict.isDeferred with
  | true =>
    rw [if_pos rfl]
    cases hget : s.nodeCacheKeys.get probed.1 with
    | some keys => simp [Claims, hget]
    | none =>
      rw [← mem_unattributedCacheKeys]
      simp [Claims, hget]
  | false =>
    rw [if_neg (by simp)]
    split <;> simp

/-- **What a pass freezes**: what some deferred probe held when its turn came. -/
theorem mem_frozen (s : ProbeCache K V) (probes : List (K × NodeProbe K V)) (key : CacheKey K) :
    key ∈ (s.settleProbes probes).2 ↔
      Lib.Somewhere (fun before probed => (s.settleProbes before).1.HoldsAt key probed) probes := by
  induction probes using List.reverseRecOn with
  | nil => exact ⟨fun h => absurd h List.not_mem_nil, fun h => (Lib.not_somewhere_nil _ h).elim⟩
  | append_singleton probes probed ih =>
    rw [settleProbes_concat, mem_frozen_holdOrNoteCacheKeys, ih, Lib.somewhere_concat]

/-- **What a pass puts on record.** -/
theorem claims_settleProbes (s : ProbeCache K V) (probes : List (K × NodeProbe K V)) (node : K) (key : CacheKey K) :
    (s.settleProbes probes).1.Claims node key ↔ s.Claims node key ∨
      Lib.Somewhere (fun before probed =>
        probed.1 = node ∧ (s.settleProbes before).1.Notes probed ∧ key ∈ probed.2.keys) probes := by
  induction probes using List.reverseRecOn with
  | nil => exact ⟨.inl, fun h => h.resolve_right (Lib.not_somewhere_nil _)⟩
  | append_singleton probes probed ih =>
    rw [settleProbes_concat, claims_holdOrNoteCacheKeys, ih, Lib.somewhere_concat, or_assoc]

/-! ## One enumeration -/

theorem get_retainNodes (s : ProbeCache K V) (seenNodes : List K) (node : K) :
    (s.retainNodes seenNodes).nodeCacheKeys.get node = if node ∈ seenNodes then s.nodeCacheKeys.get node else none := by
  unfold retainNodes
  dsimp only
  rw [Map.get_filter]
  by_cases hnode : node ∈ seenNodes
  · rw [if_pos hnode]
    cases s.nodeCacheKeys.get node <;> simp [Option.filter, hnode]
  · rw [if_neg hnode]
    cases s.nodeCacheKeys.get node <;> simp [Option.filter, hnode]

theorem claims_retainNodes {seenNodes : List K} :
    (s.retainNodes seenNodes).Claims node key ↔ node ∈ seenNodes ∧ s.Claims node key := by
  unfold Claims
  rw [get_retainNodes]
  by_cases hnode : node ∈ seenNodes <;> simp [hnode]

theorem foldl_applyOutcome_keeps (s : ProbeCache K V) (outcomes : List (CacheOutcome K V)) :
    (outcomes.foldl applyOutcome s).misses = s.misses ∧
      (outcomes.foldl applyOutcome s).nodeCacheKeys = s.nodeCacheKeys := by
  refine Lib.foldl_keeps (fun t => t.misses = s.misses ∧ t.nodeCacheKeys = s.nodeCacheKeys) ?_ outcomes s ⟨rfl, rfl⟩
  intro t outcome ht
  cases outcome <;> exact ht

theorem get_applyOutcome {outcome : CacheOutcome K V} (h : outcome.key ≠ some key) :
    (s.applyOutcome outcome).cache.get key = s.cache.get key := by
  cases outcome with
  | fresh other cached => exact (Map.get_put _ _ _ _).trans (if_neg fun heq => h (congrArg some heq))
  | update other cached => exact (Map.get_put _ _ _ _).trans (if_neg fun heq => h (congrArg some heq))
  | seen other => rfl
  | unkeyed => rfl

theorem get_foldl_applyOutcome : ∀ (outcomes : List (CacheOutcome K V)) (s : ProbeCache K V),
    (∀ outcome ∈ outcomes, outcome.key ≠ some key) → (outcomes.foldl applyOutcome s).cache.get key = s.cache.get key
  | [], _, _ => rfl
  | outcome :: outcomes, s, h => by
    rw [List.foldl_cons, get_foldl_applyOutcome outcomes _ fun other hother => h other (List.mem_cons_of_mem _ hother)]
    exact get_applyOutcome (h outcome List.mem_cons_self)

theorem cached_foldl_applyOutcome (s : ProbeCache K V) (outcomes : List (CacheOutcome K V))
    (h : (s.cache.get key).isSome) : ((outcomes.foldl applyOutcome s).cache.get key).isSome := by
  refine Lib.foldl_keeps (fun t => (t.cache.get key).isSome) ?_ outcomes s h
  intro t outcome ht
  have hput : ∀ (other : CacheKey K) (cached : V), ((t.cache.put other cached).get key).isSome := by
    intro other cached
    rw [Map.get_put]
    split
    · rfl
    · exact ht
  cases outcome with
  | fresh other cached => exact hput other cached
  | update other cached => exact hput other cached
  | seen other => exact ht
  | unkeyed => exact ht

end ProbeCache

/-- The entries that a pass saw. -/
def Enumeration.seen (pass : Enumeration K V) : List (CacheKey K) :=
  (pass.probes.flatMap fun probed => probed.2.outcomes).filterMap CacheOutcome.key

theorem Enumeration.mem_seen {pass : Enumeration K V} {key : CacheKey K} :
    key ∈ pass.seen ↔ ∃ probed ∈ pass.probes, key ∈ probed.2.keys := by
  unfold Enumeration.seen NodeProbe.keys
  rw [List.filterMap_flatMap, List.mem_flatMap]

namespace ProbeCache

variable [DecidableEq K]

/-- The entries that a pass freezes. -/
def frozen (s : ProbeCache K V) (pass : Enumeration K V) : List (CacheKey K) :=
  ((s.retainNodes pass.seenNodes).settleProbes pass.probes).2

/-- The cache that the misses of a pass are counted in. -/
def answered (s : ProbeCache K V) (pass : Enumeration K V) : ProbeCache K V :=
  (pass.probes.flatMap fun probed => probed.2.outcomes).foldl applyOutcome
    ((s.retainNodes pass.seenNodes).settleProbes pass.probes).1

theorem enumerate_eq (s : ProbeCache K V) (pass : Enumeration K V) :
    s.enumerate pass = (s.answered pass).evictUnseen pass.seen (s.frozen pass) := rfl

theorem misses_answered (s : ProbeCache K V) (pass : Enumeration K V) : (s.answered pass).misses = s.misses :=
  (foldl_applyOutcome_keeps _ _).1.trans (settleProbes_keeps _ _).2

variable {s : ProbeCache K V} {pass : Enumeration K V} {node : K} {key : CacheKey K} {seen frozen : List (CacheKey K)}

theorem claims_answered :
    (s.answered pass).Claims node key ↔
      ((s.retainNodes pass.seenNodes).settleProbes pass.probes).1.Claims node key := by
  unfold Claims answered
  rw [(foldl_applyOutcome_keeps _ _).2]

theorem get_answered (h : key ∉ pass.seen) :
    (s.answered pass).cache.get key = s.cache.get key := by
  unfold answered
  have hother : ∀ outcome ∈ pass.probes.flatMap fun probed => probed.2.outcomes, outcome.key ≠ some key :=
    fun outcome hmem hkey => h (List.mem_filterMap.2 ⟨outcome, hmem, hkey⟩)
  rw [get_foldl_applyOutcome _ _ hother, (settleProbes_keeps _ _).1]
  rfl

theorem cached_answered (pass : Enumeration K V) (h : (s.cache.get key).isSome) :
    ((s.answered pass).cache.get key).isSome := by
  refine cached_foldl_applyOutcome _ _ ?_
  rw [(settleProbes_keeps _ _).1]
  exact h

theorem evictUnseen_of_seen (s : ProbeCache K V) (frozen : List (CacheKey K)) (h : key ∈ seen) :
    (s.evictUnseen seen frozen).cache.get key = s.cache.get key ∧
      (s.evictUnseen seen frozen).misses.get key = none := by
  unfold evictUnseen
  dsimp only
  have hmissing : key ∉ s.cache.keys.filter fun key => key ∉ seen && key ∉ frozen := by
    simp [h]
  obtain ⟨hcache, hmisses⟩ := foldl_age_of_not_mem { s with misses := s.misses.filter fun row => row.1 ∉ seen } hmissing
  refine ⟨hcache, hmisses.trans ?_⟩
  rw [Map.get_filter]
  cases s.misses.get key <;> simp [Option.filter, h]

theorem get_misses_filter (h : key ∉ seen) :
    Map.get (s.misses.filter fun row => row.1 ∉ seen) key = s.misses.get key := by
  rw [Map.get_filter]
  cases s.misses.get key <;> simp [Option.filter, h]

theorem evictUnseen_of_held (hseen : key ∉ seen) (h : key ∈ frozen ∨ s.cache.get key = none) :
    (s.evictUnseen seen frozen).cache.get key = s.cache.get key ∧
      (s.evictUnseen seen frozen).misses.get key = s.misses.get key := by
  unfold evictUnseen
  dsimp only
  have hmissing : key ∉ s.cache.keys.filter fun key => key ∉ seen && key ∉ frozen := by
    rw [List.mem_filter, Map.mem_keys]
    rcases h with h | h <;> simp [h]
  obtain ⟨hcache, hmisses⟩ := foldl_age_of_not_mem { s with misses := s.misses.filter fun row => row.1 ∉ seen } hmissing
  exact ⟨hcache, hmisses.trans (get_misses_filter hseen)⟩

/-- **What a pass does to an entry that it missed.** -/
theorem evictUnseen_of_missed (hseen : key ∉ seen) (hfrozen : key ∉ frozen) (hcached : (s.cache.get key).isSome) :
    (cacheMissGrace < (s.misses.get key).getD 0 + 1 ∧ (s.evictUnseen seen frozen).cache.get key = none ∧
        (s.evictUnseen seen frozen).misses.get key = none) ∨
      (s.misses.get key).getD 0 + 1 ≤ cacheMissGrace ∧
        (s.evictUnseen seen frozen).cache.get key = s.cache.get key ∧
          (s.evictUnseen seen frozen).misses.get key = some ((s.misses.get key).getD 0 + 1) := by
  unfold evictUnseen
  dsimp only
  have hmissing : key ∈ s.cache.keys.filter fun key => key ∉ seen && key ∉ frozen := by
    rw [List.mem_filter, Map.mem_keys]
    simp [hseen, hfrozen, hcached]
  have haged := foldl_age_of_mem { s with misses := s.misses.filter fun row => row.1 ∉ seen }
    (s.cache.nodup.filter _) hmissing
  dsimp only at haged
  rw [get_misses_filter hseen] at haged
  exact haged

theorem claims_evictUnseen (hclaims : s.Claims node key)
    (h : key ∈ seen ∨ ((s.evictUnseen seen frozen).cache.get key).isSome) :
    (s.evictUnseen seen frozen).Claims node key := by
  unfold evictUnseen at h ⊢
  dsimp only at h ⊢
  refine claims_foldl_age (s := { s with misses := s.misses.filter fun row => row.1 ∉ seen }) hclaims ?_
  refine h.imp_left fun hseen => ?_
  simp [hseen]

/-- An entry is neither evicted nor counted as missed once more. -/
def Spared (s s' : ProbeCache K V) (key : CacheKey K) : Prop :=
  (s.cache.get key).isSome → (s'.cache.get key).isSome ∧ (s'.misses.get key).getD 0 ≤ (s.misses.get key).getD 0

theorem spared_of_seen (h : key ∈ pass.seen) :
    s.Spared (s.enumerate pass) key := by
  intro hcached
  rw [enumerate_eq]
  obtain ⟨hcache, hmisses⟩ := (s.answered pass).evictUnseen_of_seen (s.frozen pass) h
  rw [hcache, hmisses]
  exact ⟨cached_answered pass hcached, Nat.zero_le _⟩

theorem spared_of_frozen (h : key ∈ s.frozen pass) :
    s.Spared (s.enumerate pass) key := by
  by_cases hseen : key ∈ pass.seen
  · exact spared_of_seen hseen
  · intro hcached
    rw [enumerate_eq]
    obtain ⟨hcache, hmisses⟩ := evictUnseen_of_held (s := s.answered pass) hseen (.inl h)
    rw [hcache, hmisses, misses_answered]
    exact ⟨cached_answered pass hcached, Nat.le_refl _⟩

/-- The cache as a probe's turn comes in a pass. -/
def atTurn (s : ProbeCache K V) (pass : Enumeration K V) (before : List (K × NodeProbe K V)) : ProbeCache K V :=
  ((s.retainNodes pass.seenNodes).settleProbes before).1

theorem mem_frozen_iff :
    key ∈ s.frozen pass ↔ Lib.Somewhere (fun before probed => (s.atTurn pass before).HoldsAt key probed) pass.probes :=
  mem_frozen _ _ _

/-- **What a deferred node has on record is spared.** -/
theorem spared_of_claims {probe : NodeProbe K V} (hprobed : (node, probe) ∈ pass.probes)
    (hdeferred : probe.verdict.isDeferred = true) (hclaims : s.Claims node key) : s.Spared (s.enumerate pass) key := by
  refine spared_of_frozen (mem_frozen_iff.2 ?_)
  obtain ⟨before, rest, hsplit⟩ := List.append_of_mem hprobed
  refine ⟨before, (node, probe), rest, hsplit, hdeferred, .inl ?_⟩
  refine (claims_settleProbes _ before node key).2 (.inl ?_)
  exact claims_retainNodes.2 ⟨pass.listed _ hprobed, hclaims⟩

/-- **What nobody has on record is spared** while a node without a record is deferred. -/
theorem spared_of_unclaimed (hunclaimed : ∀ node ∈ pass.seenNodes, ¬s.Claims node key)
    (hdeferred : Lib.Somewhere (fun before probed => probed.2.verdict.isDeferred = true ∧
      (s.atTurn pass before).nodeCacheKeys.get probed.1 = none) pass.probes) :
    s.Spared (s.enumerate pass) key := by
  intro hcached
  obtain ⟨before, probed, rest, hsplit, hdeferred, hrecord⟩ := hdeferred
  by_cases hclaimed : ∃ node, (s.atTurn pass before).Claims node key
  · -- an earlier probe of the pass contributed the entry
    obtain ⟨node, hnode⟩ := hclaimed
    rcases (claims_settleProbes _ before node key).1 hnode with hbefore | ⟨pre, other, post, hpre, -, -, hkey⟩
    · obtain ⟨hlisted, hclaims⟩ := claims_retainNodes.1 hbefore
      exact absurd hclaims (hunclaimed node hlisted)
    · have hother : other ∈ pass.probes := by
        rw [hsplit, hpre]
        simp
      exact spared_of_seen (Enumeration.mem_seen.2 ⟨other, hother, hkey⟩) hcached
  · have hturn : ((s.atTurn pass before).cache.get key).isSome := by
      unfold atTurn
      rw [(settleProbes_keeps _ _).1]
      exact hcached
    have hheld : key ∈ s.frozen pass := mem_frozen_iff.2
      ⟨before, probed, rest, hsplit, hdeferred, .inr ⟨hrecord, hturn, not_exists.1 hclaimed⟩⟩
    exact spared_of_frozen hheld hcached

/-- **What a pass leaves on record** of a listed node's entries that are still cached. -/
theorem claims_enumerate (hlisted : node ∈ pass.seenNodes) (hclaims : s.Claims node key)
    (hcached : ((s.enumerate pass).cache.get key).isSome) : (s.enumerate pass).Claims node key := by
  rw [enumerate_eq] at hcached ⊢
  refine claims_evictUnseen (claims_answered.2 ?_) (.inr hcached)
  exact (claims_settleProbes _ _ _ _).2 (.inl (claims_retainNodes.2 ⟨hlisted, hclaims⟩))

/-- **What a probe contributes is on record** once its node is known. -/
theorem claims_enumerate_of_contributed {before rest : List (K × NodeProbe K V)} {probed : K × NodeProbe K V}
    (hsplit : pass.probes = before ++ probed :: rest) (hnotes : (s.atTurn pass before).Notes probed)
    (hkey : key ∈ probed.2.keys) : (s.enumerate pass).Claims probed.1 key := by
  rw [enumerate_eq]
  have hprobed : probed ∈ pass.probes := by
    rw [hsplit]
    simp
  refine claims_evictUnseen (claims_answered.2 ?_) (.inl (Enumeration.mem_seen.2 ⟨probed, hprobed, hkey⟩))
  exact (claims_settleProbes _ _ _ _).2 (.inr ⟨before, probed, rest, hsplit, rfl, hnotes, hkey⟩)

end ProbeCache

/-! ## Runs -/

/-- The cache, and in how many passes each entry was neither seen nor held since it was last seen. -/
structure Watched (K V : Type) where
  kept : ProbeCache K V
  missed : CacheKey K → Nat

namespace Watched

variable [DecidableEq K]

def enumerate (w : Watched K V) (pass : Enumeration K V) : Watched K V where
  kept := w.kept.enumerate pass
  missed key :=
    if key ∈ pass.seen then 0
    else if key ∈ w.kept.frozen pass then w.missed key
    else w.missed key + 1

/-- A run from what was loaded: nothing is missed, and no node was asked. -/
def watch (loaded : Map (CacheKey K) V) (passes : List (Enumeration K V)) : Watched K V :=
  passes.foldl enumerate ⟨{ cache := loaded }, fun _ => 0⟩

/-- Misses are of cached entries, and say how often each was missed. -/
def Tracks (w : Watched K V) : Prop :=
  ∀ key, (w.kept.cache.get key = none → w.kept.misses.get key = none) ∧
    ((w.kept.cache.get key).isSome → (w.kept.misses.get key).getD 0 = w.missed key ∧ w.missed key ≤ cacheMissGrace)

/-- **What a pass does to one entry.** -/
theorem tracks_enumerate {w : Watched K V} (h : w.Tracks) (pass : Enumeration K V) :
    (w.enumerate pass).Tracks ∧ ∀ key, (w.kept.cache.get key).isSome → (w.enumerate pass).kept.cache.get key = none →
      cacheMissGrace < (w.enumerate pass).missed key := by
  suffices hkey : ∀ key,
      ((w.enumerate pass).kept.cache.get key = none → (w.enumerate pass).kept.misses.get key = none) ∧
      (((w.enumerate pass).kept.cache.get key).isSome →
        ((w.enumerate pass).kept.misses.get key).getD 0 = (w.enumerate pass).missed key ∧
          (w.enumerate pass).missed key ≤ cacheMissGrace) ∧
      ((w.kept.cache.get key).isSome → (w.enumerate pass).kept.cache.get key = none →
        cacheMissGrace < (w.enumerate pass).missed key) from
    ⟨fun key => ⟨(hkey key).1, (hkey key).2.1⟩, fun key => (hkey key).2.2⟩
  intro key
  unfold enumerate
  dsimp only
  rw [ProbeCache.enumerate_eq]
  obtain ⟨huncached, hcached⟩ := h key
  by_cases hseen : key ∈ pass.seen
  · rw [if_pos hseen]
    obtain ⟨hcache, hmisses⟩ := (w.kept.answered pass).evictUnseen_of_seen (w.kept.frozen pass) hseen
    rw [hcache, hmisses]
    refine ⟨fun _ => rfl, fun _ => ⟨rfl, Nat.zero_le _⟩, fun hsome hnone => ?_⟩
    have hstill := ProbeCache.cached_answered pass hsome
    rw [hnone] at hstill
    cases hstill
  · rw [if_neg hseen]
    by_cases hheld : key ∈ w.kept.frozen pass ∨ w.kept.cache.get key = none
    · rw [← ProbeCache.get_answered hseen] at hheld
      obtain ⟨hcache, hmisses⟩ := ProbeCache.evictUnseen_of_held hseen hheld
      rw [hcache, hmisses, ProbeCache.get_answered hseen, ProbeCache.misses_answered]
      rw [ProbeCache.get_answered hseen] at hheld
      refine ⟨huncached, fun hsome => ?_, fun hsome hnone => ?_⟩
      · have hfrozen := hheld.resolve_right (Option.isSome_iff_ne_none.1 hsome)
        rw [if_pos hfrozen]
        exact hcached hsome
      · rw [hnone] at hsome
        cases hsome
    · rw [not_or] at hheld
      have hsome := Option.isSome_iff_ne_none.2 hheld.2
      obtain ⟨htracked, hgrace⟩ := hcached hsome
      rw [if_neg hheld.1]
      have hanswered := ProbeCache.cached_answered pass hsome
      rcases ProbeCache.evictUnseen_of_missed hseen hheld.1 hanswered with
        ⟨hover, hcache, hmisses⟩ | ⟨hin, hcache, hmisses⟩
      · rw [ProbeCache.misses_answered, htracked] at hover
        rw [hcache, hmisses]
        exact ⟨fun _ => rfl, fun hnone => (by cases hnone), fun _ _ => hover⟩
      · rw [ProbeCache.misses_answered, htracked] at hin hmisses
        rw [hcache, hmisses]
        refine ⟨fun hnone => ?_, fun _ => ⟨rfl, hin⟩, fun _ hnone => ?_⟩
        · rw [hnone] at hanswered
          cases hanswered
        · rw [hnone] at hanswered
          cases hanswered

/-- The invariant, of a run. -/
theorem tracks_watch (loaded : Map (CacheKey K) V) (passes : List (Enumeration K V)) :
    (watch loaded passes).Tracks := by
  refine Lib.foldl_keeps Tracks (fun w pass h => (tracks_enumerate h pass).1) passes _ ?_
  exact fun key => ⟨fun _ => rfl, fun _ => ⟨rfl, Nat.zero_le _⟩⟩

/-- **Retention**: after any run, a pass evicts an entry only once it was missed more than the grace allows; it spares
what a deferred node has on record, and what no listed node has on record while one without a record is deferred; misses
are of cached entries; an entry is held only for such a node; and a healthy probe, or any that ran once its node is
known, puts what it contributes on record, where it stays while it is cached and the node listed. -/
theorem retention_keeps (loaded : Map (CacheKey K) V) (passes : List (Enumeration K V)) (pass : Enumeration K V) :
    let w := watch loaded passes
    let after := w.enumerate pass
    (∀ key, (w.kept.cache.get key).isSome → after.kept.cache.get key = none → cacheMissGrace < after.missed key) ∧
      (∀ node probe key, (node, probe) ∈ pass.probes → probe.verdict.isDeferred = true → w.kept.Claims node key →
        w.kept.Spared after.kept key) ∧
      (∀ key, (∀ node ∈ pass.seenNodes, ¬w.kept.Claims node key) →
        Lib.Somewhere (fun before probed => probed.2.verdict.isDeferred = true ∧
          (w.kept.atTurn pass before).nodeCacheKeys.get probed.1 = none) pass.probes →
        w.kept.Spared after.kept key) ∧
      (∀ key, (after.kept.misses.get key).isSome → (after.kept.cache.get key).isSome) ∧
      (∀ key, key ∈ w.kept.frozen pass ↔
        Lib.Somewhere (fun before probed => (w.kept.atTurn pass before).HoldsAt key probed) pass.probes) ∧
      (∀ before probed rest key, pass.probes = before ++ probed :: rest → (w.kept.atTurn pass before).Notes probed →
        key ∈ probed.2.keys → after.kept.Claims probed.1 key) ∧
      ∀ node ∈ pass.seenNodes, ∀ key, w.kept.Claims node key → (after.kept.cache.get key).isSome →
        after.kept.Claims node key := by
  intro w after
  have htracks : w.Tracks := tracks_watch loaded passes
  obtain ⟨hafter, hevicted⟩ := tracks_enumerate htracks pass
  refine ⟨hevicted, ?_, ?_, ?_, fun key => ProbeCache.mem_frozen_iff, ?_, ?_⟩
  · intro node probe key hprobed hdeferred hclaims
    exact ProbeCache.spared_of_claims hprobed hdeferred hclaims
  · intro key hunclaimed hdeferred
    exact ProbeCache.spared_of_unclaimed hunclaimed hdeferred
  · intro key hmissed
    rw [Option.isSome_iff_ne_none] at hmissed ⊢
    exact fun huncached => hmissed ((hafter key).1 huncached)
  · intro before probed rest key hsplit hnotes hkey
    exact ProbeCache.claims_enumerate_of_contributed hsplit hnotes hkey
  · intro node hlisted key hclaims hcached
    exact ProbeCache.claims_enumerate hlisted hclaims hcached

/-- A pass over one receiver. -/
def receiverPass (verdict : ProbeVerdict) (outcomes : List (CacheOutcome Nat Unit)) : Enumeration Nat Unit :=
  ⟨[1], [(1, ⟨verdict, outcomes⟩)], by simp⟩

/-- The nodes that contributed an entry, in whatever probe. -/
def contributors (passes : List (Enumeration Nat Unit)) (key : CacheKey Nat) : List Nat :=
  passes.flatMap fun pass => (pass.probes.filter fun probed => key ∈ probed.2.keys).map Prod.fst

/-- A receiver's first probe fails, after it found one device, and its next one finds none.  The device's entry is not
on record, so it is aged while the only node that contributed it is deferred. -/
theorem failed_first_probe_claims_nothing :
    let passes := [receiverPass .failed [.fresh (.bolt 7) ()], receiverPass (.healthy true) []]
    let pass := receiverPass .deferred []
    contributors passes (.bolt 7) = [1] ∧
      (pass.probes.map fun probed => (probed.1, probed.2.verdict)) = [(1, .deferred)] ∧
      (watch .empty passes).kept.misses.get (.bolt 7) = some 1 ∧
      ((watch .empty passes).enumerate pass).kept.misses.get (.bolt 7) = some 2 ∧
      ¬(watch .empty passes).kept.Spared ((watch .empty passes).enumerate pass).kept (.bolt 7) := by
  refine ⟨by decide, by decide, by decide, by decide, fun hspared => ?_⟩
  exact absurd (hspared (by decide)).2 (by decide)

end Watched

end Inventory
end OpenLogi
