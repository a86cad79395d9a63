import OpenLogi.Inventory.Lifecycle
/-!
# Duplicates — a node the backend lists twice

A repeated node that has no channel yet is opened once.  One that is serving is probed and settled for every mention,
and one that is draining is settled again, or released by its first mention and opened by its second.
-/
namespace OpenLogi
namespace Inventory

variable {K C I : Type} [DecidableEq K] [DecidableEq C]

/-- The surroundings with the repeated entries of the listing removed. -/
def Surroundings.deduplicated (env : Surroundings K C I) : Surroundings K C I :=
  { env with listing := env.listing.eraseDups }

/-! ## A listing without repeats -/

namespace Spot

/-- At most one list of a prepared pass has the node, once. -/
structure Once (s : Spot K C I) : Prop where
  lists : s.active.length + s.retiring.length + s.openFailures.length ≤ 1
  settled : s.settled = []
  inventories : s.inventories = []
  apart : s.released = [] ∨ s.toOpen = []

omit [DecidableEq C] in
theorem once_prepared {env : Surroundings K C I} (hnodup : env.listing.Nodup) (atOpen atReap : C → Bool) (node : K)
    (channel : Option (ChannelState C)) (lastGood : Option I) (failures : Option FailureCounts)
    (registry : Option (List C)) (evicted : Bool) (retired : List (K × C)) :
    ((bare channel lastGood failures registry evicted retired).prepared env atOpen atReap node).Once := by
  by_cases hlisted : node ∈ env.listing
  · rcases channel with _ | (c | c)
    · cases hopen : env.openHidpp node with
      | opened c =>
        rw [prepared_opened hnodup hlisted c hopen]
        exact ⟨by simp [bare], rfl, rfl, .inl rfl⟩
      | notHidpp =>
        rw [prepared_notHidpp hnodup hlisted hopen]
        exact ⟨by simp [bare], rfl, rfl, .inl rfl⟩
      | failed =>
        rw [prepared_failed hnodup hlisted hopen]
        exact ⟨by simp [bare], rfl, rfl, .inl rfl⟩
    · rw [prepared_active hnodup hlisted c]
      exact ⟨by simp [bare], rfl, rfl, .inl rfl⟩
    · rw [prepared_retiring hnodup hlisted c]
      exact ⟨by simp [bare], rfl, rfl, .inr rfl⟩
  · rcases channel with _ | (c | c)
    · rw [prepared_missing hlisted]
      exact ⟨by simp [bare], rfl, rfl, .inl rfl⟩
    · cases hconnected : env.isConnected c with
      | true =>
        rw [prepared_live hlisted c hconnected]
        exact ⟨by simp [bare], rfl, rfl, .inl rfl⟩
      | false =>
        rw [prepared_gone hlisted c hconnected]
        exact ⟨by simp [bare], rfl, rfl, .inr rfl⟩
    · rw [prepared_draining hlisted c]
      exact ⟨by simp [bare], rfl, rfl, .inr rfl⟩

end Spot

/-! ## A node listed twice that has a channel -/

namespace Spot

/-- The node is to be settled twice, or opened after its release. -/
def Doubled (s : Spot K C I) : Prop :=
  2 ≤ s.active.length ∨ 2 ≤ s.retiring.length ∨ s.released ≠ [] ∧ s.toOpen ≠ []

variable {s : Spot K C I}

omit [DecidableEq C] in
theorem Doubled.prepareNode (h : s.Doubled) (isQuiescent : C → Bool) (node : K) :
    (s.prepareNode isQuiescent node).Doubled := by
  unfold Spot.prepareNode
  rcases s.channel with _ | (c | c)
  · simp only
    split
    · exact h
    · exact h.imp_right fun h => h.imp_right fun h => ⟨h.1, by simp⟩
  · refine h.imp_left fun h => ?_
    rw [List.length_append]
    omega
  · simp only
    split
    · refine h.imp_right fun h => Or.imp ?_ ?_ h
      · intro hretiring
        rw [List.length_append]
        omega
      · exact fun h => ⟨by simp, h.2⟩
    · refine h.imp_right fun h => h.imp_left fun hretiring => ?_
      rw [List.length_append]
      omega

omit [DecidableEq C] in
theorem Doubled.foldOpened (h : s.Doubled) (env : Surroundings K C I) (node : K) :
    (s.foldOpened env node).Doubled := by
  unfold Spot.foldOpened
  cases env.openHidpp node with
  | opened c =>
    refine Or.imp_left (fun hactive => ?_) h
    simp only [List.length_append]
    omega
  | notHidpp => exact h
  | failed => exact h

omit [DecidableEq C] in
/-- **A second mention of a node that has a channel.** -/
theorem doubled_twice (h : s.channel ≠ none) (isQuiescent : C → Bool) (node : K) :
    ((s.prepareNode isQuiescent node).prepareNode isQuiescent node).Doubled := by
  rcases hchannel : s.channel with _ | (c | c)
  · exact absurd hchannel h
  · refine .inl ?_
    simp only [prepareNode, hchannel, List.length_append, List.length_singleton]
    omega
  · cases hq : isQuiescent c with
    | true =>
      refine .inr (.inr ?_)
      simp only [prepareNode, hchannel, hq, if_true]
      split
      · rename_i hmem
        exact ⟨by simp, List.ne_nil_of_mem hmem⟩
      · exact ⟨by simp, by simp⟩
    | false =>
      refine .inr (.inl ?_)
      simp only [prepareNode, hchannel, hq, Bool.false_eq_true, if_false, List.length_append, List.length_singleton]
      omega

omit [DecidableEq C] in
theorem doubled_prepared {env : Surroundings K C I} {node : K} (hcount : 2 ≤ env.listing.count node)
    (h : s.channel ≠ none) (atOpen atReap : C → Bool) :
    (s.prepared env atOpen atReap node).Doubled := by
  obtain ⟨more, hmore⟩ := Nat.exists_eq_add_of_le' hcount
  have hlisted : node ∈ env.listing := List.count_pos_iff.1 (by omega)
  have hprepared : (s.prepareListed env atOpen node).Doubled := by
    rw [prepareListed, List.filter_eq, hmore, List.replicate_succ, List.replicate_succ, List.foldl_cons, List.foldl_cons]
    exact Lib.foldl_keeps Doubled (fun s k h => h.prepareNode atOpen k) _ _ (doubled_twice h atOpen node)
  have hopened : ((s.prepareListed env atOpen node).openQueued env).Doubled :=
    Lib.foldl_keeps Doubled (fun s k h => h.foldOpened env k) _ _ hprepared
  rw [prepared, retain, if_pos hlisted]
  exact hopened

end Spot

namespace Pass

variable (env : Surroundings K C I)

theorem once_prepareNodes (e : Enumerator K C I) (h : env.listing.Nodup) (node : K) :
    ((prepareNodes env e).spot node).Once := by
  rw [spot_prepareNodes, spot_begin, Spot.prepareNodes]
  rcases Spot.retireReported_cases env node _ _ _ _ _ with hreported | ⟨c, -, -, hreported⟩
  · rw [hreported]
    exact Spot.once_prepared h _ _ _ _ _ _ _ _ _
  · rw [hreported]
    exact Spot.once_prepared h _ _ _ _ _ _ _ _ _

theorem reported_channel (e : Enumerator K C I) (node : K) :
    (((begin e).spot node).retireReportedChannels env node).channel = none ↔ e.channels.channels.get node = none := by
  rw [spot_begin]
  rcases Spot.retireReported_cases env node _ _ _ _ _ with hreported | ⟨c, hactive, -, hreported⟩
  · rw [hreported]
    rfl
  · rw [hreported, hactive]
    simp [Spot.bare]

/-! ## What repeats change -/

/-- A pass over the listing is as one over it without repeats: the same nodes are opened and the same inventories
published, each node is settled and published once at most, and none is opened that this pass released. -/
structure IgnoresRepeats (env : Surroundings K C I) (e : Enumerator K C I) : Prop where
  opens : (enumerate env e).toOpen = (enumerate env.deduplicated e).toOpen
  publishes : (enumerate env e).inventories = (enumerate env.deduplicated e).inventories
  settles : (enumerate env e).settled.Nodup
  distinct : ((enumerate env e).inventories.map Prod.fst).Nodup
  defers : ∀ row ∈ (enumerate env e).released, row.1 ∉ (enumerate env e).toOpen

/-- A repeated node without a channel is queued once. -/
theorem prepareListed_deduplicated (p : Pass K C I)
    (h : ∀ node, 2 ≤ env.listing.count node → p.channels.channels.get node = none) :
    p.prepareListed env = p.prepareListed env.deduplicated := by
  have hkeep : ∀ (p : Pass K C I) (a b : K), p.channels.channels.get a = none →
      (p.prepareNode env b).channels.channels.get a = none ∧ ∀ k ∈ p.toOpen, k ∈ (p.prepareNode env b).toOpen := by
    intro p a b ha
    rcases p.prepareNode_cases env b with
      ⟨c, -, -, h⟩ | ⟨c, -, -, h⟩ | ⟨c, -, h⟩ | ⟨-, -, h⟩ | ⟨-, -, h⟩
    · rw [h]
      exact ⟨by simp [ha], fun k hk => hk⟩
    · rw [h]
      exact ⟨ha, fun k hk => hk⟩
    · rw [h]
      exact ⟨ha, fun k hk => hk⟩
    · rw [h]
      exact ⟨ha, fun k hk => hk⟩
    · rw [h]
      exact ⟨ha, fun k hk => List.mem_append_left _ hk⟩
  refine Lib.foldl_eraseDups (fun p node => p.channels.channels.get node = none ∧ node ∈ p.toOpen)
    (fun p node => p.channels.channels.get node = none) ?_ ?_ ?_ ?_ env.listing p h
  · rintro p a ⟨ha, hopen⟩
    rcases p.prepareNode_cases env a with
      ⟨c, hc, -⟩ | ⟨c, hc, -⟩ | ⟨c, hc, -⟩ | ⟨-, -, h⟩ | ⟨-, hclosed, -⟩
    · rw [ha] at hc
      cases hc
    · rw [ha] at hc
      cases hc
    · rw [ha] at hc
      cases hc
    · exact h
    · exact absurd hopen hclosed
  · rintro p a b ⟨ha, hopen⟩
    exact ⟨(hkeep p a b ha).1, (hkeep p a b ha).2 a hopen⟩
  · exact fun p a b ha => (hkeep p a b ha).1
  · intro p a ha
    refine ⟨(hkeep p a a ha).1, ?_⟩
    rcases p.prepareNode_cases env a with
      ⟨c, hc, -⟩ | ⟨c, hc, -⟩ | ⟨c, hc, -⟩ | ⟨-, hopen, -⟩ | ⟨-, -, h⟩
    · rw [ha] at hc
      cases hc
    · rw [ha] at hc
      cases hc
    · rw [ha] at hc
      cases hc
    · exact (hkeep p a a ha).2 a hopen
    · rw [h]
      exact List.mem_append_right _ (List.mem_singleton_self a)

theorem retainSeen_congr (p : Pass K C I) {seen seen' : List K} (h : ∀ node, node ∈ seen ↔ node ∈ seen') :
    p.retainSeen env seen = p.retainSeen env seen' := by
  simp only [retainSeen, forgetAbsent, reapAbsent, retireAbsent, retainPublished, Registry.NodeRegistry.retainNodes,
    ChannelCache.retireAbsent, ChannelCache.reapAbsent, ChannelCache.reaped, h]
  congr! 2

/-- Once the listing is sorted only its members matter. -/
theorem retainNodes_deduplicated (p : Pass K C I) :
    p.retainNodes env = p.retainNodes env.deduplicated := by
  have hlive : p.liveCached env = p.liveCached env.deduplicated := by
    simp [liveCached, Surroundings.deduplicated]
  have hseen : ∀ node, node ∈ p.retainedNodes env ↔ node ∈ p.retainedNodes env.deduplicated := by
    intro node
    rw [retainedNodes, retainedNodes, ← hlive, List.mem_append, List.mem_append]
    exact or_congr_left List.mem_eraseDups.symm
  have happend : p.appendLiveCachedChannels env = p.appendLiveCachedChannels env.deduplicated := by
    rw [appendLiveCachedChannels, appendLiveCachedChannels, hlive]
  rw [retainNodes, retainNodes, ← happend]
  exact retainSeen_congr env _ hseen

theorem enumerate_deduplicated (e : Enumerator K C I)
    (h : ∀ node, 2 ≤ env.listing.count node → e.channels.channels.get node = none) :
    enumerate env e = enumerate env.deduplicated e := by
  have hlisted : ((begin e).retireReportedChannels env).prepareListed env =
      ((begin e).retireReportedChannels env).prepareListed env.deduplicated := by
    refine prepareListed_deduplicated env _ fun node hcount => ?_
    have hchannel := (reported_channel env e node).2 (h node hcount)
    rwa [← spot_retireReportedChannels] at hchannel
  have hprepared : prepareNodes env e = prepareNodes env.deduplicated e := by
    rw [prepareNodes, hlisted, retainNodes_deduplicated]
    rfl
  rw [enumerate, hprepared]
  rfl

/-! ## A listing without repeats -/

omit [DecidableEq C] in
theorem count_map_key {A : Type} (key : A → K) (l : List A) (node : K) :
    (l.map key).count node = (l.filter fun a => decide (key a = node)).length := by
  rw [List.count, List.countP_map, List.countP_eq_length_filter]
  congr 1

omit [DecidableEq C] in
theorem count_key (l : List K) (node : K) : l.count node = (l.filter fun k => decide (k = node)).length := by
  rw [List.filter_eq, List.length_replicate]

theorem once_enumerate (e : Enumerator K C I) (h : env.listing.Nodup) :
    (enumerate env e).settled.Nodup ∧ ((enumerate env e).inventories.map Prod.fst).Nodup ∧
      ∀ row ∈ (enumerate env e).released, row.1 ∉ (enumerate env e).toOpen := by
  have hspot : ∀ node, ∃ s : Spot K C I, s.Once ∧ s.Settles ((enumerate env e).spot node)
      (s.active.map Prod.fst ++ s.retiring ++ s.openFailures) := by
    intro node
    refine ⟨(prepareNodes env e).spot node, once_prepareNodes env e h node, ?_⟩
    rw [spot_prepareNodes, spot_enumerate]
    exact Spot.settles_enumerate env _ _ node _
  refine ⟨?_, ?_, ?_⟩
  · refine List.nodup_iff_count_le_one.2 fun node => ?_
    obtain ⟨s, honce, hsettles⟩ := hspot node
    have hlists := honce.lists
    have hsettled := congrArg List.length hsettles.settled
    rw [honce.settled, List.nil_append, List.length_append, List.length_append, List.length_map] at hsettled
    rw [count_key]
    exact Nat.le_trans (Nat.le_of_eq hsettled) hlists
  · refine List.nodup_iff_count_le_one.2 fun node => ?_
    obtain ⟨s, honce, hsettles⟩ := hspot node
    have hlists := honce.lists
    have hinventories := hsettles.inventories
    rw [honce.inventories, List.length_nil, Nat.zero_add, List.length_append, List.length_append, List.length_map]
      at hinventories
    rw [count_map_key]
    exact Nat.le_trans hinventories hlists
  · intro row hrow hopen
    obtain ⟨s, honce, hsettles⟩ := hspot row.1
    have hreleased : row ∈ ((enumerate env e).spot row.1).released := List.mem_filter.2 ⟨hrow, by simp⟩
    have htoOpen : row.1 ∈ ((enumerate env e).spot row.1).toOpen := List.mem_filter.2 ⟨hopen, by simp⟩
    rw [hsettles.released] at hreleased
    rw [hsettles.toOpen] at htoOpen
    rcases honce.apart with hnone | hnone
    · rw [hnone] at hreleased
      cases hreleased
    · rw [hnone] at htoOpen
      cases htoOpen

/-- **What a repeat changes**: nothing, exactly where no node that is listed twice has a channel. -/
theorem ignoresRepeats_iff (env : Surroundings K C I) (e : Enumerator K C I) :
    IgnoresRepeats env e ↔ ∀ node, 2 ≤ env.listing.count node → e.channels.channels.get node = none := by
  constructor
  · intro h node hcount
    by_contra hchannel
    have hdoubled : ((prepareNodes env e).spot node).Doubled := by
      rw [spot_prepareNodes]
      exact Spot.doubled_prepared hcount (fun hnone => hchannel ((reported_channel env e node).1 hnone)) _ _
    have hsettles : ((prepareNodes env e).spot node).Settles ((enumerate env e).spot node)
        (((prepareNodes env e).spot node).active.map Prod.fst ++ ((prepareNodes env e).spot node).retiring ++
          ((prepareNodes env e).spot node).openFailures) := by
      rw [spot_prepareNodes, spot_enumerate]
      exact Spot.settles_enumerate env _ _ node _
    have hcount : ((enumerate env e).spot node).settled.length ≤ 1 := by
      have hone := List.nodup_iff_count_le_one.1 h.settles node
      rwa [count_key] at hone
    rw [hsettles.settled] at hcount
    simp only [List.length_append, List.length_map] at hcount
    rcases hdoubled with hactive | hretiring | ⟨hreleased, htoOpen⟩
    · omega
    · omega
    · rw [← hsettles.released] at hreleased
      rw [← hsettles.toOpen] at htoOpen
      obtain ⟨row, hrow⟩ := List.exists_mem_of_ne_nil _ hreleased
      obtain ⟨k, hk⟩ := List.exists_mem_of_ne_nil _ htoOpen
      obtain ⟨hmem, hnode⟩ : row ∈ (enumerate env e).released ∧ row.1 = node := by simpa [spot] using hrow
      obtain ⟨hqueued, rfl⟩ : k ∈ (enumerate env e).toOpen ∧ k = node := by simpa [spot] using hk
      exact h.defers row hmem (hnode ▸ hqueued)
  · intro h
    have heq := enumerate_deduplicated env e h
    obtain ⟨hsettled, hinventories, hreleased⟩ := once_enumerate env.deduplicated e (Lib.nodup_eraseDups env.listing)
    rw [← heq] at hsettled hinventories hreleased
    exact ⟨congrArg toOpen heq, congrArg inventories heq, hsettled, hinventories, hreleased⟩

/-- A node that drains, listed twice: the first mention releases its channel, the second opens it. -/
def drainedTwice : Surroundings Nat Nat Nat × Enumerator Nat Nat Nat :=
  ({ reported := [], isHeld := fun _ => false, listing := [0, 0], openHidpp := fun _ => .opened 2,
     isConnected := fun _ => true, probe := fun _ => (.healthy true, some 0), routes := fun _ => [] },
    { channels := ⟨Lib.Map.put Lib.Map.empty 0 (.retiring 1)⟩, ledger := NodeLedger.empty, registry := none,
      evictedNodes := fun _ => false, replacedLastTick := [] })

theorem repeat_opens_what_it_releases : ¬IgnoresRepeats drainedTwice.1 drainedTwice.2 := fun h =>
  h.defers (0, 1) (by decide) (by decide)

end Pass

end Inventory
end OpenLogi
