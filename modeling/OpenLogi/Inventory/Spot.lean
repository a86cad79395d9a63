import OpenLogi.Inventory.Pass
import OpenLogi.Lib.Sweep
/-!
# Spot — a pass, seen at one node

A pass treats its nodes apart: what it does to a node's channel, ledger entry, publication and eviction, and what it
reports of the node, follows from these alone, from how often the node is listed, and from who else holds its channel.
-/
namespace OpenLogi
namespace Inventory

open Registry (NodeRegistry)

variable {K C I : Type}

/-- A pass under way at one node. -/
structure Spot (K C I : Type) where
  channel : Option (ChannelState C)
  lastGood : Option I
  failures : Option FailureCounts
  /-- The channels published for the node, where there is a registry. -/
  registry : Option (List C)
  evicted : Bool
  active : List (K × C) := []
  toOpen : List K := []
  openFailures : List K := []
  retiring : List K := []
  replaced : List K := []
  inventories : List (K × I) := []
  opened : List (K × C) := []
  released : List (K × C) := []
  retired : List (K × C) := []
  settled : List K := []

namespace ChannelState

def serving : Option (ChannelState C) → Option C
  | some (.active channel) => some channel
  | some (.retiring _) => none
  | none => none

def retire : Option (ChannelState C) → Option (ChannelState C)
  | some (.active channel) => some (.retiring channel)
  | some (.retiring channel) => some (.retiring channel)
  | none => none

def draining : Option (ChannelState C) → Option C
  | some (.active _) => none
  | some (.retiring channel) => some channel
  | none => none

end ChannelState

namespace Spot

variable [DecidableEq K] [DecidableEq C]

def evict (node : K) (s : Spot K C I) : Spot K C I :=
  { s with
    registry := s.registry.map fun _ => []
    channel := ChannelState.retire s.channel
    retired := s.retired ++ ((ChannelState.serving s.channel).map fun channel => (node, channel)).toList
    evicted := true }

def retireReportedChannels (env : Surroundings K C I) (node : K) (s : Spot K C I) : Spot K C I :=
  match s.registry, ChannelState.serving s.channel with
  | some _, some channel => if env.reported.contains channel then s.evict node else s
  | some _, none => s
  | none, _ => s

def prepareNode (isQuiescent : C → Bool) (s : Spot K C I) (node : K) : Spot K C I :=
  match s.channel with
  | some (.active channel) => { s with active := s.active ++ [(node, channel)] }
  | some (.retiring channel) =>
    if isQuiescent channel then
      { s with
        channel := none
        retiring := s.retiring ++ [node]
        released := s.released ++ [(node, channel)] }
    else { s with retiring := s.retiring ++ [node] }
  | none => if node ∈ s.toOpen then s else { s with toOpen := s.toOpen ++ [node] }

/-- The ledger as far as it is about the node. -/
def ledger (s : Spot K C I) : NodeLedger K I := ⟨fun _ => s.lastGood, fun _ => s.failures⟩

def withLedger (node : K) (l : NodeLedger K I) (s : Spot K C I) : Spot K C I :=
  { s with lastGood := l.lastGood node, failures := l.failures node }

def foldOpened (env : Surroundings K C I) (s : Spot K C I) (node : K) : Spot K C I :=
  match env.openHidpp node with
  | .opened channel =>
    { s.withLedger node (s.ledger.resetChannelFailuresAfterOpen node) with
      replaced := if s.evicted && s.lastGood.isSome then s.replaced ++ [node] else s.replaced
      evicted := false
      channel := match s.channel with
        | some (.retiring old) => some (.retiring old)
        | some (.active _) => some (.active channel)
        | none => some (.active channel)
      active := s.active ++ [(node, channel)]
      opened := s.opened ++ [(node, channel)] }
  | .notHidpp => s
  | .failed => { s with openFailures := s.openFailures ++ [node] }

def forget (s : Spot K C I) : Spot K C I :=
  { s with registry := s.registry.map fun _ => [], lastGood := none, failures := none, evicted := false }

/-- A retired channel of an absent node. -/
def reap (isQuiescent : C → Bool) (node : K) (channel : C) (s : Spot K C I) : Spot K C I :=
  if isQuiescent channel then { s with channel := none, released := s.released ++ [(node, channel)] }
  else { s with channel := some (.retiring channel) }

def absent (isQuiescent : C → Bool) (node : K) (s : Spot K C I) : Spot K C I :=
  match s.channel with
  | some (.active channel) =>
    ({ s with retired := s.retired ++ [(node, channel)] }.reap isQuiescent node channel).forget
  | some (.retiring channel) => (s.reap isQuiescent node channel).forget
  | none => s.forget

/-- The node is listed, or probed once more through its live channel, or absent. -/
def retain (env : Surroundings K C I) (isQuiescent : C → Bool) (node : K) (s : Spot K C I) : Spot K C I :=
  if node ∈ env.listing then s
  else
    match ChannelState.serving s.channel with
    | some channel =>
      if env.isConnected channel then { s with active := s.active ++ [(node, channel)] }
      else s.absent isQuiescent node
    | none => s.absent isQuiescent node

def publish (s : Spot K C I) (channel : C) : Spot K C I :=
  { s with registry := s.registry.map fun published => channel :: published.tail }

def recordSettled (s : Spot K C I) (node : K) (settled : SettledNode I × NodeLedger K I) : Spot K C I :=
  { s.withLedger node settled.2 with
    settled := s.settled ++ [node]
    inventories := s.inventories ++ (settled.1.inventory.map fun inventory => (node, inventory)).toList }

def confirmReplaced (s : Spot K C I) (settled : SettledNode I) : Spot K C I :=
  if settled.inventory.isSome then s else { s with replaced := [] }

def publishSettled (s : Spot K C I) (row : K × C) (settled : SettledNode I) : Spot K C I :=
  if settled.evictChannel then s.evict row.1
  else
    match settled.inventory with
    | none => { s with registry := s.registry.map fun _ => [] }
    | some _ => s.publish row.2

def settleActive (env : Surroundings K C I) (s : Spot K C I) (row : K × C) : Spot K C I :=
  let settled := Pass.settleProbe s.ledger row.1 (env.probe row.1).1 (env.probe row.1).2
  ((s.recordSettled row.1 settled).confirmReplaced settled.1).publishSettled row settled.1

def settleUnhealthyNode (s : Spot K C I) (node : K) : Spot K C I := s.recordSettled node (s.ledger.settle node false none)

def prepareListed (env : Surroundings K C I) (isQuiescent : C → Bool) (node : K) (s : Spot K C I) : Spot K C I :=
  (env.listing.filter fun k => decide (k = node)).foldl (prepareNode isQuiescent) s

def openQueued (env : Surroundings K C I) (s : Spot K C I) : Spot K C I := s.toOpen.foldl (foldOpened env) s

/-- What drains at a listed node is told by `atOpen`, at an absent one by `atReap`. -/
def prepared (env : Surroundings K C I) (atOpen atReap : C → Bool) (node : K) (s : Spot K C I) : Spot K C I :=
  ((s.prepareListed env atOpen node).openQueued env).retain env atReap node

def prepareNodes (env : Surroundings K C I) (atOpen atReap : C → Bool) (node : K) (s : Spot K C I) : Spot K C I :=
  (s.retireReportedChannels env node).prepared env atOpen atReap node

def settleProbed (env : Surroundings K C I) (s : Spot K C I) : Spot K C I := s.active.foldl (settleActive env) s

def settleRetiring (s : Spot K C I) : Spot K C I := s.retiring.foldl settleUnhealthyNode s

def settleOpenFailures (s : Spot K C I) : Spot K C I := s.openFailures.foldl settleUnhealthyNode s

def enumerate (env : Surroundings K C I) (atOpen atReap : C → Bool) (node : K) (s : Spot K C I) : Spot K C I :=
  (((s.prepareNodes env atOpen atReap node).settleProbed env).settleRetiring).settleOpenFailures

/-- A node no list of the pass has yet, but that its channel may have been retired. -/
def bare (channel : Option (ChannelState C)) (lastGood : Option I) (failures : Option FailureCounts)
    (registry : Option (List C)) (evicted : Bool) (retired : List (K × C)) : Spot K C I :=
  { channel, lastGood, failures, registry, evicted, retired }

end Spot

/-! ## What each operation does to a node's channel -/

namespace ChannelCache

variable [DecidableEq K]

variable (cache : ChannelCache K C)

theorem get_eq (node : K) : cache.get node = ChannelState.serving (cache.channels.get node) := by
  unfold get ChannelState.serving
  rcases cache.channels.get node with _ | (c | c) <;> rfl

theorem get_retireNode (k node : K) :
    (cache.retireNode k).channels.get node =
      if k = node then ChannelState.retire (cache.channels.get node) else cache.channels.get node := by
  unfold retireNode
  by_cases hk : k = node
  · subst hk
    cases h : cache.channels.get k with
    | none => simp [h, ChannelState.retire]
    | some state => cases state <;> simp [h, ChannelState.retire]
  · cases h : cache.channels.get k with
    | none => simp [hk]
    | some state => cases state <;> simp [hk]

/-- A node's serving channel among them all. -/
theorem filter_activeIter (node : K) :
    cache.activeIter.filter (fun row => decide (row.1 = node)) =
      ((cache.get node).map fun channel => (node, channel)).toList := by
  rw [get_eq]
  refine (Lib.Map.filter_filterMap_rows _ _ ?_ node).trans ?_
  · rintro ⟨k, state⟩ out hout
    cases state with
    | active channel =>
      cases hout
      rfl
    | retiring channel => cases hout
  · rcases cache.channels.get node with _ | (c | c) <;> rfl

theorem get_insert (k node : K) (channel : C) :
    (cache.insert k channel).channels.get node = if k = node then (match cache.channels.get node with
      | some (.retiring old) => some (.retiring old)
      | some (.active _) => some (.active channel)
      | none => some (.active channel)) else cache.channels.get node := by
  unfold insert
  by_cases hk : k = node
  · subst hk
    rcases h : cache.channels.get k with _ | (c | c) <;> simp [h]
  · rcases h : cache.channels.get k with _ | (c | c) <;> simp [hk]

theorem get_retireAbsent (seen : List K) (node : K) :
    (cache.retireAbsent seen).channels.get node =
      if node ∈ seen then cache.channels.get node else ChannelState.retire (cache.channels.get node) := by
  have hsweep := Lib.foldl_view (f := retireNode) (g := fun state _ => ChannelState.retire state)
    (fun cache : ChannelCache K C => cache.channels.get node) (fun k => decide (k = node)) (fun _ => True)
    (fun _ _ _ => trivial) (fun cache k _ => by simpa using get_retireNode cache k node)
    ((cache.activeIter.map Prod.fst).filter fun k => decide (k ∉ seen)) cache trivial
  unfold retireAbsent
  rw [hsweep, List.filter_filter]
  by_cases hseen : node ∈ seen
  · rw [if_pos hseen, List.filter_eq_nil_iff.2]
    · rfl
    · intro k _ hk
      obtain ⟨rfl, habsent⟩ : k = node ∧ k ∉ seen := by simpa using hk
      exact habsent hseen
  · rw [if_neg hseen]
    have hown : (cache.activeIter.map Prod.fst).filter (fun k => decide (k = node) && decide (k ∉ seen)) =
        (cache.activeIter.filter fun row => decide (row.1 = node)).map Prod.fst := by
      rw [List.filter_map]
      congr 1
      refine List.filter_congr fun row _ => ?_
      by_cases hk : row.1 = node
      · simp [hk, hseen]
      · simp [hk]
    rw [hown, filter_activeIter, get_eq]
    rcases cache.channels.get node with _ | (c | c) <;> rfl

theorem filter_reaped (seen : List K) (isQuiescent : C → Bool) (node : K) :
    (cache.reaped seen isQuiescent).filter (fun row => decide (row.1 = node)) =
      if node ∈ seen then [] else
        ((ChannelState.draining (cache.channels.get node)).filter isQuiescent).toList.map fun channel => (node, channel) := by
  refine (Lib.Map.filter_filterMap_rows _ _ ?_ node).trans ?_
  · rintro ⟨k, state⟩ out hout
    cases state with
    | active channel => cases hout
    | retiring channel =>
      simp only [Option.ite_none_right_eq_some, Option.some.injEq] at hout
      rw [← hout.2]
  · by_cases hseen : node ∈ seen
    · rcases cache.channels.get node with _ | (c | c) <;> simp [hseen]
    · rcases cache.channels.get node with _ | (c | c)
      · simp [ChannelState.draining]
      · simp [ChannelState.draining]
      · by_cases hq : isQuiescent c = true <;> simp [ChannelState.draining, hseen, hq, Option.filter]

theorem get_reapAbsent (seen : List K) (isQuiescent : C → Bool) (node : K) :
    (cache.reapAbsent seen isQuiescent).channels.get node =
      if node ∉ seen ∧ (ChannelState.draining (cache.channels.get node)).any isQuiescent then none
      else cache.channels.get node := by
  rw [reapAbsent, Lib.Map.get_filter]
  by_cases hseen : node ∈ seen
  · rcases cache.channels.get node with _ | (c | c) <;> simp [hseen, Option.filter]
  · rcases cache.channels.get node with _ | (c | c)
    · simp [ChannelState.draining]
    · simp [ChannelState.draining, Option.filter]
    · cases hq : isQuiescent c <;> simp [ChannelState.draining, Option.filter, hseen, hq]

end ChannelCache

namespace NodeLedger

variable [DecidableEq K]

theorem reset_lastGood (l : NodeLedger K I) (k : K) : (l.resetChannelFailuresAfterOpen k).lastGood = l.lastGood := by
  unfold resetChannelFailuresAfterOpen
  cases l.failures k <;> rfl

theorem reset_failures (l : NodeLedger K I) (k node : K) : (l.resetChannelFailuresAfterOpen k).failures node =
    if k = node then (l.failures node).map fun counts => { counts with probe := 0, arrivalReplay := 0 }
    else l.failures node := by
  unfold resetChannelFailuresAfterOpen
  by_cases hk : k = node
  · subst hk
    cases h : l.failures k with
    | none => simp [h]
    | some counts => simp
  · cases l.failures k with
    | none => simp [hk]
    | some counts => simp [hk, Ne.symm hk]

/-- The two ledgers say the same of the node. -/
def Agrees (node : K) (l l' : NodeLedger K I) : Prop :=
  l.lastGood node = l'.lastGood node ∧ l.failures node = l'.failures node

variable {node : K}

theorem settleFailure_agrees {l l' : NodeLedger K I} (h : Agrees node l l') (live : Option I) (evictAfter : Nat)
    (kind : FailureKind) :
    (l.settleFailure node live evictAfter kind).1 = (l'.settleFailure node live evictAfter kind).1 ∧
      Agrees node (l.settleFailure node live evictAfter kind).2 (l'.settleFailure node live evictAfter kind).2 := by
  obtain ⟨hg, hf⟩ := h
  unfold settleFailure counts
  rw [hf, hg]
  simp only
  split
  · cases hl : l'.lastGood node with
    | none => exact ⟨rfl, by rw [hg, hl], by simp⟩
    | some previous => exact ⟨rfl, by rw [hg, hl], by simp⟩
  · exact ⟨rfl, by simp, by simp⟩

theorem settleFailure_others (l : NodeLedger K I) {k : K} (hk : k ≠ node) (live : Option I) (evictAfter : Nat)
    (kind : FailureKind) : Agrees node (l.settleFailure k live evictAfter kind).2 l := by
  unfold settleFailure
  simp only
  split
  · cases l.lastGood k with
    | none => exact ⟨rfl, by simp [Ne.symm hk]⟩
    | some previous => exact ⟨rfl, by simp [Ne.symm hk]⟩
  · exact ⟨by simp [Ne.symm hk], by simp [Ne.symm hk]⟩

theorem settle_agrees {l l' : NodeLedger K I} (h : Agrees node l l') (healthy : Bool) (live : Option I) :
    (l.settle node healthy live).1 = (l'.settle node healthy live).1 ∧
      Agrees node (l.settle node healthy live).2 (l'.settle node healthy live).2 := by
  cases healthy with
  | true => exact ⟨rfl, by simp [settle], by simp [settle]⟩
  | false => exact settleFailure_agrees h live channelEvictAfter .probe

theorem settle_others (l : NodeLedger K I) {k : K} (hk : k ≠ node) (healthy : Bool) (live : Option I) :
    Agrees node (l.settle k healthy live).2 l := by
  cases healthy with
  | true => exact ⟨by simp [settle, Ne.symm hk], by simp [settle, Ne.symm hk]⟩
  | false => exact l.settleFailure_others hk live channelEvictAfter .probe

end NodeLedger

namespace Pass

variable [DecidableEq K] [DecidableEq C]

def publishedAt (registry : NodeRegistry K C) (node : K) : List C :=
  (registry.publications.filter fun publication => decide (publication.node = node)).map (·.channel)

def spot (p : Pass K C I) (node : K) : Spot K C I where
  channel := p.channels.channels.get node
  lastGood := p.ledger.lastGood node
  failures := p.ledger.failures node
  registry := p.registry.map (publishedAt · node)
  evicted := p.evictedNodes node
  active := p.active.filter fun row => decide (row.1 = node)
  toOpen := p.toOpen.filter fun k => decide (k = node)
  openFailures := p.openFailures.filter fun k => decide (k = node)
  retiring := p.retiring.filter fun k => decide (k = node)
  replaced := p.replaced.filter fun k => decide (k = node)
  inventories := p.inventories.filter fun row => decide (row.1 = node)
  opened := p.opened.filter fun row => decide (row.1 = node)
  released := p.released.filter fun row => decide (row.1 = node)
  retired := p.retired.filter fun row => decide (row.1 = node)
  settled := p.settled.filter fun k => decide (k = node)

/-! ## What each operation does at a node -/

omit [DecidableEq C] in
theorem publishedAt_removeNode (registry : NodeRegistry K C) (k node : K) :
    publishedAt (registry.removeNode k).2 node = if k = node then [] else publishedAt registry node := by
  unfold publishedAt NodeRegistry.removeNode
  simp only [List.filter_filter]
  by_cases hk : k = node
  · subst hk
    rw [if_pos rfl, List.filter_eq_nil_iff.2]
    · rfl
    · intro publication _ h
      simp at h
  · rw [if_neg hk]
    congr 1
    refine List.filter_congr fun publication _ => ?_
    by_cases hp : publication.node = node
    · simp [hp, Ne.symm hk]
    · simp [hp]

omit [DecidableEq C] in
theorem publishedAt_retainNodes (registry : NodeRegistry K C) (seen : List K) (node : K) :
    publishedAt (registry.retainNodes seen).2 node = if node ∈ seen then publishedAt registry node else [] := by
  unfold publishedAt NodeRegistry.retainNodes
  simp only [List.filter_filter]
  by_cases hseen : node ∈ seen
  · rw [if_pos hseen]
    congr 1
    refine List.filter_congr fun publication _ => ?_
    by_cases hp : publication.node = node
    · simp [hp, hseen]
    · simp [hp]
  · rw [if_neg hseen, List.filter_eq_nil_iff.2]
    · rfl
    · intro publication _ h
      obtain ⟨rfl, hmem⟩ : publication.node = node ∧ publication.node ∈ seen := by simpa using h
      exact hseen hmem

theorem publishedAt_replaceNode (registry : NodeRegistry K C) (k node : K) (routes : List Hid.DeviceRoute) (channel : C) :
    publishedAt (registry.replaceNode k routes channel).2 node =
      if k = node then channel :: (publishedAt registry node).tail else publishedAt registry node := by
  have hfirst : ∀ l : List (Registry.Publication K C), (l.find? fun q => decide (q.node = k)).isSome →
      ((NodeRegistry.updateFirst (fun q => decide (q.node = k)) (fun q => { q with routes := routes, channel := channel })
        l).filter fun q => decide (q.node = node)).map (·.channel) =
          if k = node then channel :: ((l.filter fun q => decide (q.node = node)).map (·.channel)).tail
          else (l.filter fun q => decide (q.node = node)).map (·.channel) := by
    intro l
    induction l with
    | nil => simp
    | cons q l ih =>
      intro hsome
      by_cases hq : q.node = k
      · by_cases hk : k = node
        · simp [NodeRegistry.updateFirst, hq, hk]
        · simp [NodeRegistry.updateFirst, hq, hk]
      · have hrest : (l.find? fun q => decide (q.node = k)).isSome := by simpa [List.find?_cons, hq] using hsome
        by_cases hn : q.node = node
        · have hk : node ≠ k := fun h => hq (hn.trans h)
          simpa [NodeRegistry.updateFirst, hn, hk, Ne.symm hk] using ih hrest
        · simpa [NodeRegistry.updateFirst, hq, hn] using ih hrest
  unfold NodeRegistry.replaceNode
  cases hfind : registry.publications.find? fun q => decide (q.node = k) with
  | none =>
    have hnone : ∀ q ∈ registry.publications, q.node ≠ k := by simpa using List.find?_eq_none.1 hfind
    by_cases hk : k = node
    · subst hk
      have hempty : registry.publications.filter (fun q => decide (q.node = k)) = [] :=
        List.filter_eq_nil_iff.2 fun q hq => by simpa using hnone q hq
      simp [publishedAt, List.filter_append, hempty]
    · simp [publishedAt, List.filter_append, hk]
  | some publication =>
    simp only
    split
    · rename_i hsame
      have hchannel : publication.channel = channel := by simpa using (Bool.and_eq_true_iff.1 hsame).2
      by_cases hk : k = node
      · subst hk
        have hhead : (registry.publications.filter fun q => decide (q.node = k)).head? = some publication := by
          rw [List.head?_filter, hfind]
        rw [if_pos rfl]
        unfold publishedAt
        cases hl : registry.publications.filter fun q => decide (q.node = k) with
        | nil =>
          rw [hl] at hhead
          cases hhead
        | cons q l =>
          rw [hl] at hhead
          cases hhead
          simp [hchannel]
      · rw [if_neg hk]
    · exact hfirst _ (by rw [hfind]; rfl)

omit [DecidableEq C] in
theorem spot_evict (p : Pass K C I) (k node : K) :
    (p.evict k).spot node = if k = node then (p.spot node).evict node else p.spot node := by
  by_cases hk : k = node
  · subst hk
    rw [if_pos rfl]
    simp only [spot, evict, Spot.evict, ChannelCache.get_retireNode, if_true, ChannelCache.get_eq, Option.map_map,
      Function.update_self, List.filter_append, Spot.mk.injEq, true_and, and_true]
    refine ⟨?_, ?_⟩
    · congr 1
      funext registry
      simp [publishedAt_removeNode]
    · congr 1
      rcases p.channels.channels.get k with _ | (c | c) <;> simp [ChannelState.serving]
  · rw [if_neg hk]
    have hretired : (((p.channels.get k).map fun channel => (k, channel)).toList.filter
        fun row => decide (row.1 = node)) = [] := by
      cases p.channels.get k <;> simp [hk]
    simp only [spot, evict, ChannelCache.get_retireNode, if_neg hk, Option.map_map,
      Function.update_of_ne (Ne.symm hk), List.filter_append, hretired, List.append_nil, Spot.mk.injEq, true_and,
      and_true]
    congr 1
    funext registry
    simp [publishedAt_removeNode, hk]

variable (env : Surroundings K C I)

theorem spot_retireReportedChannels (p : Pass K C I) (node : K) :
    (p.retireReportedChannels env).spot node = (p.spot node).retireReportedChannels env node := by
  unfold retireReportedChannels Spot.retireReportedChannels
  cases hregistry : p.registry with
  | none => simp [spot, hregistry]
  | some registry =>
    have hsweep := Lib.foldl_view (f := evict) (g := fun (s : Spot K C I) (_ : K) => s.evict node)
      (fun p : Pass K C I => p.spot node) (fun k => decide (k = node)) (fun _ => True) (fun _ _ _ => trivial)
      (fun p k _ => by simpa using spot_evict p k node)
      ((p.channels.activeIter.filter fun row => env.reported.contains row.2).map Prod.fst) p trivial
    have hown : ((p.channels.activeIter.filter fun row => env.reported.contains row.2).map Prod.fst).filter
        (fun k => decide (k = node)) = (((p.channels.activeIter.filter fun row => decide (row.1 = node)).filter
          fun row => env.reported.contains row.2)).map Prod.fst := by
      rw [List.filter_map, List.filter_filter, List.filter_filter]
      congr 1
      refine List.filter_congr fun row _ => ?_
      simp [Bool.and_comm]
    simp only [hsweep, hown, ChannelCache.filter_activeIter, ChannelCache.get_eq]
    have hspot : (p.spot node).registry = some (publishedAt registry node) := by simp [spot, hregistry]
    have hchannel : (p.spot node).channel = p.channels.channels.get node := rfl
    rw [hspot, hchannel]
    rcases p.channels.channels.get node with _ | (c | c)
    · rfl
    · by_cases hc : c ∈ env.reported
      · simp [ChannelState.serving, hc]
      · simp [ChannelState.serving, hc]
    · rfl

/-- The listed node is draining, serving, or queued to be opened. -/
theorem prepareNode_cases (p : Pass K C I) (k : K) :
    (∃ c, p.channels.channels.get k = some (.retiring c) ∧ p.isQuiescent env c = true ∧ p.prepareNode env k = { p with
      channels := ⟨p.channels.channels.erase k⟩, retiring := p.retiring ++ [k], released := p.released ++ [(k, c)] }) ∨
    (∃ c, p.channels.channels.get k = some (.retiring c) ∧ p.isQuiescent env c = false ∧
      p.prepareNode env k = { p with retiring := p.retiring ++ [k] }) ∨
    (∃ c, p.channels.channels.get k = some (.active c) ∧
      p.prepareNode env k = { p with active := p.active ++ [(k, c)] }) ∨
    (p.channels.channels.get k = none ∧ k ∈ p.toOpen ∧ p.prepareNode env k = p) ∨
    (p.channels.channels.get k = none ∧ k ∉ p.toOpen ∧
      p.prepareNode env k = { p with toOpen := p.toOpen ++ [k] }) := by
  unfold prepareNode ChannelCache.prepareOpen
  rcases hchannel : p.channels.channels.get k with _ | (c | c)
  · by_cases hk : k ∈ p.toOpen
    · exact .inr (.inr (.inr (.inl ⟨rfl, hk, by simp [ChannelCache.get, hchannel, hk]⟩)))
    · exact .inr (.inr (.inr (.inr ⟨rfl, hk, by simp [ChannelCache.get, hchannel, hk]⟩)))
  · exact .inr (.inr (.inl ⟨c, rfl, by simp [ChannelCache.get, hchannel]⟩))
  · cases hq : p.isQuiescent env c with
    | true => exact .inl ⟨c, rfl, hq, by simp [hq]⟩
    | false => exact .inr (.inl ⟨c, rfl, hq, by simp [hq]⟩)

theorem prepareNode_registry (p : Pass K C I) (k : K) :
    (p.prepareNode env k).registry = p.registry := by
  rcases p.prepareNode_cases env k with ⟨c, -, -, h⟩ | ⟨c, -, -, h⟩ | ⟨c, -, h⟩ | ⟨-, -, h⟩ | ⟨-, -, h⟩ <;> rw [h]

theorem spot_prepareNode (p : Pass K C I) (k node : K) :
    (p.prepareNode env k).spot node =
      if k = node then (p.spot node).prepareNode (p.isQuiescent env) node else p.spot node := by
  by_cases hk : k = node
  · subst hk
    rw [if_pos rfl]
    have hchannel : (p.spot k).channel = p.channels.channels.get k := rfl
    unfold Spot.prepareNode
    rw [hchannel]
    rcases p.prepareNode_cases env k with
      ⟨c, hc, hq, h⟩ | ⟨c, hc, hq, h⟩ | ⟨c, hc, h⟩ | ⟨hc, hopen, h⟩ | ⟨hc, hopen, h⟩
    · simp [h, hc, hq, spot]
    · simp [h, hc, hq, spot]
    · simp [h, hc, spot]
    · simp [h, hc, hopen, spot]
    · simp [h, hc, hopen, spot]
  · rw [if_neg hk]
    rcases p.prepareNode_cases env k with ⟨c, -, -, h⟩ | ⟨c, -, -, h⟩ | ⟨c, -, h⟩ | ⟨-, -, h⟩ | ⟨-, -, h⟩
    all_goals simp [h, spot, hk]

omit [DecidableEq C] in
theorem spot_foldOpened (p : Pass K C I) (k node : K) :
    (p.foldOpened env k).spot node = if k = node then (p.spot node).foldOpened env node else p.spot node := by
  unfold foldOpened Spot.foldOpened
  by_cases hk : k = node
  · subst hk
    rw [if_pos rfl]
    cases env.openHidpp k with
    | opened channel =>
      simp only [spot, Spot.withLedger, Spot.ledger, ChannelCache.get_insert, NodeLedger.reset_lastGood,
        NodeLedger.reset_failures, Function.update_self, List.filter_append, if_true, Spot.mk.injEq, true_and, and_true]
      refine ⟨?_, ?_, ?_⟩
      · simp
      · by_cases hreplaced : (p.evictedNodes k && (p.ledger.lastGood k).isSome) = true
        · simp [hreplaced]
        · simp [hreplaced]
      · simp
    | notHidpp => rfl
    | failed => simp [spot]
  · rw [if_neg hk]
    cases env.openHidpp k with
    | opened channel =>
      simp only [spot, ChannelCache.get_insert, NodeLedger.reset_lastGood, NodeLedger.reset_failures, if_neg hk,
        Function.update_of_ne (Ne.symm hk), List.filter_append, Spot.mk.injEq, true_and, and_true]
      refine ⟨?_, ?_, ?_⟩
      · simp [hk]
      · by_cases hreplaced : (p.evictedNodes k && (p.ledger.lastGood k).isSome) = true
        · simp [hreplaced, hk]
        · simp [hreplaced]
      · simp [hk]
    | notHidpp => rfl
    | failed => simp [spot, hk]

theorem settleProbe_agrees {l l' : NodeLedger K I} {node : K} (h : NodeLedger.Agrees node l l') (verdict : ProbeVerdict)
    (inventory : Option I) : (settleProbe l node verdict inventory).1 = (settleProbe l' node verdict inventory).1 ∧
      NodeLedger.Agrees node (settleProbe l node verdict inventory).2 (settleProbe l' node verdict inventory).2 := by
  cases verdict with
  | deferred => exact ⟨by simp [settleProbe, NodeLedger.defer, h.1], h⟩
  | aliveButIncomplete => exact NodeLedger.settleFailure_agrees h none _ _
  | failed => exact NodeLedger.settle_agrees h _ _
  | healthy complete => exact NodeLedger.settle_agrees h _ _

theorem settleProbe_others (l : NodeLedger K I) {k node : K} (hk : k ≠ node) (verdict : ProbeVerdict)
    (inventory : Option I) : NodeLedger.Agrees node (settleProbe l k verdict inventory).2 l := by
  cases verdict with
  | deferred => exact ⟨rfl, rfl⟩
  | aliveButIncomplete => exact l.settleFailure_others hk none _ _
  | failed => exact l.settle_others hk _ _
  | healthy complete => exact l.settle_others hk _ _

omit [DecidableEq C] in
theorem spot_ledger (p : Pass K C I) (node : K) : NodeLedger.Agrees node (p.spot node).ledger p.ledger := ⟨rfl, rfl⟩

omit [DecidableEq C] in
theorem spot_recordSettled (p : Pass K C I) (k node : K) (settled : SettledNode I × NodeLedger K I) :
    NodeLedger.Agrees node settled.2 p.ledger ∨ k = node → (p.recordSettled k settled).spot node =
      if k = node then (p.spot node).recordSettled node settled else p.spot node := by
  intro hothers
  by_cases hk : k = node
  · subst hk
    rw [if_pos rfl]
    simp only [recordSettled, Spot.recordSettled, Spot.withLedger, spot, List.filter_append, Spot.mk.injEq, true_and]
    refine ⟨?_, ?_⟩
    · cases settled.1.inventory <;> simp
    · simp
  · rw [if_neg hk]
    obtain ⟨hg, hf⟩ := hothers.resolve_right hk
    simp only [recordSettled, spot, hg, hf, List.filter_append, Spot.mk.injEq, true_and]
    refine ⟨?_, ?_⟩
    · cases settled.1.inventory <;> simp [hk]
    · simp [hk]

omit [DecidableEq K] [DecidableEq C] in
theorem recordSettled_congr (s : Spot K C I) (node : K) {settled settled' : SettledNode I × NodeLedger K I}
    (h : settled.1 = settled'.1) (hl : NodeLedger.Agrees node settled.2 settled'.2) :
    s.recordSettled node settled = s.recordSettled node settled' := by
  simp only [Spot.recordSettled, Spot.withLedger, h, hl.1, hl.2]

omit [DecidableEq C] in
theorem spot_confirmReplaced (p : Pass K C I) (k node : K) (settled : SettledNode I) :
    (p.confirmReplaced k settled).spot node =
      if k = node then (p.spot node).confirmReplaced settled else p.spot node := by
  have hfilter : (p.replaced.filter fun reopened => decide (reopened ≠ k) || settled.inventory.isSome).filter
      (fun reopened => decide (reopened = node)) = if k = node ∧ settled.inventory.isSome = false then []
        else p.replaced.filter fun reopened => decide (reopened = node) := by
    rw [List.filter_filter]
    split
    · rename_i h
      refine List.filter_eq_nil_iff.2 fun reopened _ => ?_
      simp [h.1, h.2]
    · rename_i h
      refine List.filter_congr fun reopened _ => ?_
      by_cases hr : reopened = node
      · by_cases hk : k = node
        · have hsome : settled.inventory.isSome = true := Bool.not_eq_false _ ▸ fun hnone => h ⟨hk, hnone⟩
          simp [hsome]
        · simp [hr, Ne.symm hk]
      · simp [hr]
  have hspot : (p.confirmReplaced k settled).spot node = { p.spot node with
      replaced := if k = node ∧ settled.inventory.isSome = false then [] else (p.spot node).replaced } := by
    simp only [confirmReplaced, spot, hfilter]
  rw [hspot]
  by_cases hk : k = node
  · rw [if_pos hk, Spot.confirmReplaced]
    cases settled.inventory.isSome <;> simp [hk]
  · simp [hk]

omit [DecidableEq C] in
theorem spot_settleUnhealthyNode (p : Pass K C I) (k node : K) :
    (p.settleUnhealthyNode k).spot node = if k = node then (p.spot node).settleUnhealthyNode node else p.spot node := by
  unfold settleUnhealthyNode Spot.settleUnhealthyNode
  by_cases hk : k = node
  · subst hk
    obtain ⟨hsettled, hledger⟩ := NodeLedger.settle_agrees (p.spot_ledger k) false none
    rw [spot_recordSettled p k k _ (.inr rfl), if_pos rfl, if_pos rfl,
      recordSettled_congr (p.spot k) k hsettled hledger]
  · rw [spot_recordSettled p k node _ (.inl (p.ledger.settle_others hk false none)), if_neg hk, if_neg hk]

omit [DecidableEq C] in
theorem spot_removeNode (p : Pass K C I) (k node : K) : (p.removeNode k).spot node =
    if k = node then { p.spot node with registry := (p.spot node).registry.map fun _ => [] } else p.spot node := by
  by_cases hk : k = node
  · rw [if_pos hk]
    simp [removeNode, spot, Option.map_map, Function.comp_def, publishedAt_removeNode, hk]
  · rw [if_neg hk]
    simp [removeNode, spot, Option.map_map, Function.comp_def, publishedAt_removeNode, hk]

theorem spot_replaceNode (p : Pass K C I) (k node : K) (inventory : I) (channel : C) :
    (p.replaceNode env k inventory channel).spot node =
      if k = node then (p.spot node).publish channel else p.spot node := by
  by_cases hk : k = node
  · rw [if_pos hk]
    simp [replaceNode, Spot.publish, spot, Option.map_map, Function.comp_def, publishedAt_replaceNode, hk]
  · rw [if_neg hk]
    simp [replaceNode, spot, Option.map_map, Function.comp_def, publishedAt_replaceNode, hk]

theorem spot_publishSettled (p : Pass K C I) (row : K × C) (settled : SettledNode I) (node : K) :
    (p.publishSettled env row settled).spot node =
      if row.1 = node then (p.spot node).publishSettled row settled else p.spot node := by
  unfold publishSettled Spot.publishSettled
  split
  · rw [spot_evict]
    by_cases hk : row.1 = node
    · simp [hk]
    · simp [hk]
  · cases settled.inventory with
    | none => rw [spot_removeNode]
    | some inventory => rw [spot_replaceNode]

theorem spot_settleActive (p : Pass K C I) (row : K × C) (node : K) :
    (p.settleActive env row).spot node = if row.1 = node then (p.spot node).settleActive env row else p.spot node := by
  obtain ⟨k, c⟩ := row
  unfold settleActive Spot.settleActive
  simp only [spot_publishSettled, spot_confirmReplaced]
  by_cases hk : k = node
  · subst hk
    obtain ⟨hsettled, hledger⟩ := settleProbe_agrees (p.spot_ledger k) (env.probe k).1 (env.probe k).2
    rw [spot_recordSettled p k k _ (.inr rfl), recordSettled_congr (p.spot k) k hsettled hledger, hsettled]
    simp
  · rw [spot_recordSettled p k node _ (.inl (settleProbe_others p.ledger hk _ _))]
    simp [hk]

omit [DecidableEq C] in
theorem filter_liveCached (p : Pass K C I) (node : K) :
    (p.liveCached env).filter (fun row => decide (row.1 = node)) =
      (((p.channels.get node).map fun channel => (node, channel)).toList).filter
        fun row => decide (node ∉ env.listing) && env.isConnected row.2 := by
  rw [← p.channels.filter_activeIter node, liveCached, List.filter_filter, List.filter_filter]
  refine List.filter_congr fun row _ => ?_
  by_cases hk : row.1 = node <;> simp [hk]

omit [DecidableEq C] in
theorem mem_retainedNodes (p : Pass K C I) (node : K) : node ∈ p.retainedNodes env ↔
    node ∈ env.listing ∨ ∃ c, p.channels.get node = some c ∧ env.isConnected c = true := by
  have hlive : node ∈ (p.liveCached env).map Prod.fst ↔
      (p.liveCached env).filter (fun row => decide (row.1 = node)) ≠ [] := by
    simp [List.filter_eq_nil_iff]
  rw [retainedNodes, List.mem_append, hlive, filter_liveCached]
  by_cases hlisted : node ∈ env.listing
  · simp [hlisted]
  · cases p.channels.get node with
    | none => simp [hlisted]
    | some c => cases env.isConnected c <;> simp [hlisted]

theorem spot_retainSeen (p : Pass K C I) (seen : List K) (node : K) :
    (p.retainSeen env seen).spot node =
      if node ∈ seen then p.spot node else (p.spot node).absent ((p.retainPublished seen).isQuiescent env) node := by
  have hretired : (p.channels.activeIter.filter fun row => decide (row.1 ∉ seen)).filter
      (fun row => decide (row.1 = node)) =
        if node ∈ seen then [] else ((p.channels.get node).map fun channel => (node, channel)).toList := by
    rw [← p.channels.filter_activeIter node, List.filter_filter]
    split
    · rename_i h
      refine List.filter_eq_nil_iff.2 fun row _ hrow => ?_
      obtain ⟨rfl, habsent⟩ : row.1 = node ∧ row.1 ∉ seen := by simpa using hrow
      exact habsent h
    · rename_i h
      refine List.filter_congr fun row _ => ?_
      by_cases hk : row.1 = node <;> simp [hk, h]
  have hq : ∀ channels retired,
      ({ p.retainPublished seen with channels := channels, retired := retired } : Pass K C I).isQuiescent env =
        (p.retainPublished seen).isQuiescent env := fun _ _ => rfl
  simp only [retainSeen, forgetAbsent, reapAbsent, retireAbsent, hq]
  generalize (p.retainPublished seen).isQuiescent env = q
  simp only [spot, ChannelCache.get_reapAbsent, ChannelCache.get_retireAbsent, retainPublished, Option.map_map,
    Function.comp_def, publishedAt_retainNodes, NodeLedger.retainNodes, decide_eq_true_eq, List.filter_append,
    hretired, ChannelCache.filter_reaped, ChannelCache.get_eq]
  by_cases hseen : node ∈ seen
  · simp [hseen]
  · simp only [Spot.absent, Spot.reap, Spot.forget, hseen, if_false]
    rcases p.channels.channels.get node with _ | (c | c)
    · simp [ChannelState.serving, ChannelState.retire, ChannelState.draining, Function.comp_def]
    · cases hqc : q c
      all_goals
        simp [ChannelState.serving, ChannelState.retire, ChannelState.draining, hqc, Option.filter, Function.comp_def]
    · cases hqc : q c
      all_goals
        simp [ChannelState.serving, ChannelState.retire, ChannelState.draining, hqc, Option.filter, Function.comp_def]

theorem spot_retain (p : Pass K C I) (node : K) :
    (p.retainNodes env).spot node = (p.spot node).retain env ((p.retainPublished (p.retainedNodes env)).isQuiescent env) node := by
  have hq : ((p.appendLiveCachedChannels env).retainPublished (p.retainedNodes env)).isQuiescent env =
      (p.retainPublished (p.retainedNodes env)).isQuiescent env := rfl
  have hlive : (p.appendLiveCachedChannels env).spot node = { p.spot node with
      active := (p.spot node).active ++ (p.liveCached env).filter fun row => decide (row.1 = node) } := by
    simp [appendLiveCachedChannels, spot]
  have hchannel : (p.spot node).channel = p.channels.channels.get node := rfl
  rw [retainNodes, spot_retainSeen, hq, hlive, filter_liveCached, Spot.retain, hchannel, ← ChannelCache.get_eq]
  have hseen := p.mem_retainedNodes env node
  by_cases hlisted : node ∈ env.listing
  · rw [if_pos (hseen.2 (.inl hlisted)), if_pos hlisted]
    simp [hlisted]
  · rw [if_neg hlisted]
    cases hget : p.channels.get node with
    | none =>
      rw [if_neg (by simp [hseen, hlisted, hget])]
      simp
    | some c =>
      by_cases hc : env.isConnected c = true
      · rw [if_pos (by simp [hseen, hlisted, hget, hc])]
        simp [hlisted, hc, hchannel]
      · rw [if_neg (by simp [hseen, hlisted, hget, hc])]
        simp [hc]

/-! ## The pass at a node -/

/-- Which channels drain when the listed nodes are sorted. -/
def atOpen (env : Surroundings K C I) (e : Enumerator K C I) : C → Bool :=
  ((begin e).retireReportedChannels env).isQuiescent env

/-- Which channels drain when the absent nodes are reaped. -/
def atReap (env : Surroundings K C I) (e : Enumerator K C I) : C → Bool :=
  let p := (((begin e).retireReportedChannels env).prepareListed env).openQueued env
  (p.retainPublished (p.retainedNodes env)).isQuiescent env

theorem spot_prepareListed (p : Pass K C I) (node : K) :
    (p.prepareListed env).spot node = (p.spot node).prepareListed env (p.isQuiescent env) node :=
  Lib.foldl_view (fun q : Pass K C I => q.spot node) _ (fun q => q.registry = p.registry)
    (fun q k h => (prepareNode_registry env q k).trans h)
    (fun q k h => by
      have hq : q.isQuiescent env = p.isQuiescent env := by
        funext c
        simp only [isQuiescent, h]
      rw [spot_prepareNode, hq]
      by_cases hk : k = node <;> simp [hk])
    env.listing p rfl

omit [DecidableEq C] in
theorem spot_openQueued (p : Pass K C I) (node : K) :
    (p.openQueued env).spot node = (p.spot node).openQueued env :=
  Lib.foldl_view (fun q : Pass K C I => q.spot node) _ (fun _ => True) (fun _ _ _ => trivial)
    (fun q k _ => by
      rw [spot_foldOpened]
      by_cases hk : k = node <;> simp [hk])
    p.toOpen p trivial

theorem spot_settleProbed (p : Pass K C I) (node : K) :
    (p.settleProbed env).spot node = (p.spot node).settleProbed env :=
  Lib.foldl_view (fun q : Pass K C I => q.spot node) _ (fun _ => True) (fun _ _ _ => trivial)
    (fun q row _ => by
      rw [spot_settleActive]
      by_cases hk : row.1 = node <;> simp [hk])
    p.active p trivial

omit [DecidableEq C] in
theorem spot_settleUnhealthyNodes (nodes : List K) (p : Pass K C I) (node : K) :
    (nodes.foldl settleUnhealthyNode p).spot node =
      (nodes.filter fun k => decide (k = node)).foldl Spot.settleUnhealthyNode (p.spot node) :=
  Lib.foldl_view (fun q : Pass K C I => q.spot node) _ (fun _ => True) (fun _ _ _ => trivial)
    (fun q k _ => by
      rw [spot_settleUnhealthyNode]
      by_cases hk : k = node <;> simp [hk])
    nodes p trivial

theorem spot_prepareNodes (e : Enumerator K C I) (node : K) :
    (prepareNodes env e).spot node = ((begin e).spot node).prepareNodes env (atOpen env e) (atReap env e) node := by
  rw [prepareNodes, spot_retain, spot_openQueued, spot_prepareListed, spot_retireReportedChannels]
  rfl

/-- **A pass treats its nodes apart.** -/
theorem spot_enumerate (e : Enumerator K C I) (node : K) :
    (enumerate env e).spot node = ((begin e).spot node).enumerate env (atOpen env e) (atReap env e) node := by
  have hfailures := spot_settleUnhealthyNodes
    (((prepareNodes env e).settleProbed env).settleRetiring).openFailures
    (((prepareNodes env e).settleProbed env).settleRetiring) node
  have hretiring := spot_settleUnhealthyNodes ((prepareNodes env e).settleProbed env).retiring
    ((prepareNodes env e).settleProbed env) node
  calc (enumerate env e).spot node
    _ = ((((prepareNodes env e).settleProbed env).settleRetiring).spot node).settleOpenFailures := hfailures
    _ = ((((prepareNodes env e).settleProbed env).spot node).settleRetiring).settleOpenFailures :=
      congrArg Spot.settleOpenFailures hretiring
    _ = ((begin e).spot node).enumerate env (atOpen env e) (atReap env e) node := by
      rw [spot_settleProbed, spot_prepareNodes, Spot.enumerate]

omit [DecidableEq C] in
theorem spot_begin (e : Enumerator K C I) (node : K) : (begin e).spot node =
    Spot.bare (e.channels.channels.get node) (e.ledger.lastGood node) (e.ledger.failures node)
      (e.registry.map (publishedAt · node)) (e.evictedNodes node) [] := rfl

end Pass

/-! ## A node listed once, or not at all -/

namespace Spot

variable [DecidableEq K] {env : Surroundings K C I} {node : K} {channel : Option (ChannelState C)}
  {lastGood : Option I} {failures : Option FailureCounts} {registry : Option (List C)} {evicted : Bool}
  {retired : List (K × C)} {atOpen atReap : C → Bool}

omit [DecidableEq K] in
/-- What was reported dead at the node is retired and withdrawn. -/
theorem retireReported_cases [DecidableEq C] (env : Surroundings K C I) (node : K)
    (channel : Option (ChannelState C)) (lastGood : Option I) (failures : Option FailureCounts)
    (registry : Option (List C)) (evicted : Bool) :
    (bare channel lastGood failures registry evicted ([] : List (K × C))).retireReportedChannels env node =
        bare channel lastGood failures registry evicted [] ∨
      ∃ c, channel = some (.active c) ∧ registry.isSome ∧
        (bare channel lastGood failures registry evicted ([] : List (K × C))).retireReportedChannels env node =
          bare (some (.retiring c)) lastGood failures (some []) true [(node, c)] := by
  cases registry with
  | none => exact .inl rfl
  | some published =>
    rcases channel with _ | (c | c)
    · exact .inl rfl
    · by_cases hreported : c ∈ env.reported
      · refine .inr ⟨c, rfl, rfl, ?_⟩
        simp [retireReportedChannels, bare, evict, ChannelState.serving, ChannelState.retire, hreported]
      · exact .inl (by simp [retireReportedChannels, bare, ChannelState.serving, hreported])
    · exact .inl rfl

section Listed

variable (hnodup : env.listing.Nodup) (hlisted : node ∈ env.listing)

include hnodup hlisted

theorem prepareListed_once (s : Spot K C I) : s.prepareListed env atOpen node = s.prepareNode atOpen node := by
  rw [prepareListed, List.filter_eq, hnodup.count, if_pos hlisted]
  rfl

theorem prepared_active (c : C) :
    (bare (some (.active c)) lastGood failures registry evicted retired).prepared env atOpen atReap node =
      { bare (some (.active c)) lastGood failures registry evicted retired with active := [(node, c)] } := by
  rw [prepared, prepareListed_once hnodup hlisted]
  simp [prepareNode, openQueued, bare, retain, hlisted]

theorem prepared_retiring (c : C) :
    (bare (some (.retiring c)) lastGood failures registry evicted retired).prepared env atOpen atReap node =
      { bare (if atOpen c then none else some (.retiring c)) lastGood failures registry evicted retired with
        retiring := [node], released := if atOpen c then [(node, c)] else [] } := by
  rw [prepared, prepareListed_once hnodup hlisted]
  cases hq : atOpen c <;> simp [prepareNode, openQueued, bare, retain, hlisted, hq]

theorem prepared_opened (c : C) (hopen : env.openHidpp node = .opened c) :
    (bare none lastGood failures registry evicted retired).prepared env atOpen atReap node =
      { bare (some (.active c)) lastGood
          (failures.map fun counts => { counts with probe := 0, arrivalReplay := 0 }) registry false retired with
        toOpen := [node], opened := [(node, c)], active := [(node, c)],
        replaced := if evicted && lastGood.isSome then [node] else [] } := by
  rw [prepared, prepareListed_once hnodup hlisted]
  simp [prepareNode, openQueued, foldOpened, bare, retain, hlisted, hopen, withLedger, ledger,
    NodeLedger.reset_lastGood, NodeLedger.reset_failures]

theorem prepared_notHidpp (hopen : env.openHidpp node = .notHidpp) :
    (bare none lastGood failures registry evicted retired).prepared env atOpen atReap node =
      { bare none lastGood failures registry evicted retired with toOpen := [node] } := by
  rw [prepared, prepareListed_once hnodup hlisted]
  simp [prepareNode, openQueued, foldOpened, bare, retain, hlisted, hopen]

theorem prepared_failed (hopen : env.openHidpp node = .failed) :
    (bare none lastGood failures registry evicted retired).prepared env atOpen atReap node =
      { bare none lastGood failures registry evicted retired with toOpen := [node], openFailures := [node] } := by
  rw [prepared, prepareListed_once hnodup hlisted]
  simp [prepareNode, openQueued, foldOpened, bare, retain, hlisted, hopen]

end Listed

section Unlisted

variable (hlisted : node ∉ env.listing)

include hlisted

theorem prepared_unlisted :
    (bare channel lastGood failures registry evicted retired).prepared env atOpen atReap node =
      (bare channel lastGood failures registry evicted retired).retain env atReap node := by
  have hnone : env.listing.filter (fun k => decide (k = node)) = [] := by
    rw [List.filter_eq, List.count_eq_zero.2 hlisted, List.replicate_zero]
  rw [prepared, prepareListed, hnone]
  rfl

theorem prepared_missing :
    (bare none lastGood failures registry evicted retired).prepared env atOpen atReap node =
      bare none none none (registry.map fun _ => []) false retired := by
  rw [prepared_unlisted hlisted]
  simp [retain, hlisted, bare, absent, forget, ChannelState.serving]

theorem prepared_live (c : C) (hconnected : env.isConnected c = true) :
    (bare (some (.active c)) lastGood failures registry evicted retired).prepared env atOpen atReap node =
      { bare (some (.active c)) lastGood failures registry evicted retired with active := [(node, c)] } := by
  rw [prepared_unlisted hlisted]
  simp [retain, hlisted, bare, hconnected, ChannelState.serving]

theorem prepared_gone (c : C) (hconnected : env.isConnected c = false) :
    (bare (some (.active c)) lastGood failures registry evicted retired).prepared env atOpen atReap node =
      { bare (if atReap c then none else some (.retiring c)) none none (registry.map fun _ => []) false
          (retired ++ [(node, c)]) with
        released := if atReap c then [(node, c)] else [] } := by
  rw [prepared_unlisted hlisted]
  cases hq : atReap c <;> simp [retain, hlisted, bare, hconnected, absent, reap, forget, ChannelState.serving, hq]

theorem prepared_draining (c : C) :
    (bare (some (.retiring c)) lastGood failures registry evicted retired).prepared env atOpen atReap node =
      { bare (if atReap c then none else some (.retiring c)) none none (registry.map fun _ => []) false retired with
        released := if atReap c then [(node, c)] else [] } := by
  rw [prepared_unlisted hlisted]
  cases hq : atReap c <;> simp [retain, hlisted, bare, absent, reap, forget, ChannelState.serving, hq]

end Unlisted

end Spot

end Inventory
end OpenLogi
