import OpenLogi.Inventory.Spot
/-!
# Lifecycle — what one pass does to a node's channel

A channel serves, drains and is released in this order, a pass taking at most the first two steps of a listed node; a
node is opened only where it has no channel.  What is published of a node while it waits is what its ledger replays.
-/
namespace OpenLogi
namespace Inventory

variable {K C I : Type} [DecidableEq K]

/-! ## The lists of a pass at a node -/

namespace Spot

/-- What the settling of a node leaves of the lists that preparing it made. -/
structure Settles (s s' : Spot K C I) (rows : List K) : Prop where
  settled : s'.settled = s.settled ++ rows
  toOpen : s'.toOpen = s.toOpen
  released : s'.released = s.released
  retiring : s'.retiring = s.retiring
  openFailures : s'.openFailures = s.openFailures
  inventories : s'.inventories.length ≤ s.inventories.length + rows.length

omit [DecidableEq K] in
theorem Settles.refl (s : Spot K C I) : s.Settles s [] := ⟨by simp, rfl, rfl, rfl, rfl, by simp⟩

omit [DecidableEq K] in
theorem Settles.trans {s t u : Spot K C I} {xs ys : List K} (h : s.Settles t xs) (h' : t.Settles u ys) :
    s.Settles u (xs ++ ys) where
  settled := by rw [h'.settled, h.settled, List.append_assoc]
  toOpen := h'.toOpen.trans h.toOpen
  released := h'.released.trans h.released
  retiring := h'.retiring.trans h.retiring
  openFailures := h'.openFailures.trans h.openFailures
  inventories := by
    have h1 := h.inventories
    have h2 := h'.inventories
    rw [List.length_append]
    omega

omit [DecidableEq K] in
theorem settles_recordSettled (s : Spot K C I) (node : K) (settled : SettledNode I × NodeLedger K I) :
    s.Settles (s.recordSettled node settled) [node] := by
  refine ⟨rfl, rfl, rfl, rfl, rfl, ?_⟩
  unfold recordSettled
  cases settled.1.inventory <;> simp

omit [DecidableEq K] in
theorem settles_confirmReplaced (s : Spot K C I) (settled : SettledNode I) : s.Settles (s.confirmReplaced settled) [] := by
  unfold confirmReplaced
  split
  · exact .refl s
  · exact ⟨by simp, rfl, rfl, rfl, rfl, by simp⟩

omit [DecidableEq K] in
theorem settles_publishSettled (s : Spot K C I) (row : K × C) (settled : SettledNode I) :
    s.Settles (s.publishSettled row settled) [] := by
  have hnil : s.inventories.length ≤ s.inventories.length + ([] : List K).length := by simp
  unfold publishSettled
  split
  · exact ⟨by simp [evict], rfl, rfl, rfl, rfl, hnil⟩
  · cases settled.inventory with
    | none => exact ⟨by simp, rfl, rfl, rfl, rfl, hnil⟩
    | some inventory => exact ⟨by simp [publish], rfl, rfl, rfl, rfl, hnil⟩

theorem settles_settleActive (env : Surroundings K C I) (s : Spot K C I) (row : K × C) :
    s.Settles (s.settleActive env row) [row.1] :=
  ((s.settles_recordSettled row.1 _).trans (settles_confirmReplaced _ _)).trans (settles_publishSettled _ row _)

omit [DecidableEq K] in
theorem settles_foldl {A : Type} {f : Spot K C I → A → Spot K C I} {key : A → K}
    (hf : ∀ (s : Spot K C I) a, s.Settles (f s a) [key a]) : ∀ (l : List A) (s : Spot K C I), s.Settles (l.foldl f s) (l.map key)
  | [], s => .refl s
  | a :: l, s => (hf s a).trans (settles_foldl hf l (f s a))

/-- **A pass settles what it prepared**: each probed channel, each draining node, each failed open. -/
theorem settles_enumerate [DecidableEq C] (env : Surroundings K C I) (atOpen atReap : C → Bool) (node : K) (s : Spot K C I) :
    (s.prepareNodes env atOpen atReap node).Settles (s.enumerate env atOpen atReap node)
      ((s.prepareNodes env atOpen atReap node).active.map Prod.fst ++
        (s.prepareNodes env atOpen atReap node).retiring ++ (s.prepareNodes env atOpen atReap node).openFailures) := by
  unfold enumerate
  generalize s.prepareNodes env atOpen atReap node = p
  have hprobed : p.Settles (p.settleProbed env) (p.active.map Prod.fst) :=
    settles_foldl (settles_settleActive env) p.active p
  have hretiring : (p.settleProbed env).Settles (p.settleProbed env).settleRetiring ((p.settleProbed env).retiring.map id) :=
    settles_foldl (fun s node => settles_recordSettled s node _) _ _
  have hfailures : (p.settleProbed env).settleRetiring.Settles (p.settleProbed env).settleRetiring.settleOpenFailures
      ((p.settleProbed env).settleRetiring.openFailures.map id) :=
    settles_foldl (fun s node => settles_recordSettled s node _) _ _
  have hall := (hprobed.trans hretiring).trans hfailures
  rwa [List.map_id, List.map_id, hretiring.openFailures, hprobed.openFailures, hprobed.retiring] at hall

end Spot

/-! ## Settling -/

theorem settleFailure_keeps (l : NodeLedger K I) (node : K) (live : Option I) (evictAfter : Nat) (kind : FailureKind) :
    ∃ kept, (kept = none ∨ kept = l.lastGood node) ∧
      (l.settleFailure node live evictAfter kind).1.inventory = kept.or live ∧
      (l.settleFailure node live evictAfter kind).2.lastGood node = kept := by
  obtain ⟨hinventory, hgood, -⟩ := l.settleFailure_spec node live evictAfter kind
  refine ⟨_, ?_, hinventory, ?_⟩
  · by_cases hgrace : l.misses node + 1 ≤ nodeMissGrace
    · exact .inr (if_pos hgrace)
    · exact .inl (if_neg hgrace)
  · rw [hgood, Function.update_self]

/-- A failure whose streak is its first does not evict. -/
theorem settleFailure_first (l : NodeLedger K I) (node : K) (live : Option I) {evictAfter : Nat} (kind : FailureKind)
    (hevict : 2 ≤ evictAfter) (hprobe : (l.counts node).probe.val = 0) (hreplay : (l.counts node).arrivalReplay.val = 0) :
    (l.settleFailure node live evictAfter kind).1.evictChannel = false := by
  have hstreak : (kind.record (l.counts node)).1.val ≤ 1 := by
    cases kind with
    | probe =>
      have := saturatingSucc_val (l.counts node).probe
      simp only [FailureKind.record]
      omega
    | arrivalReplay =>
      have := saturatingSucc_val (l.counts node).arrivalReplay
      simp only [FailureKind.record]
      omega
  have hno : ¬evictAfter ≤ (kind.record (l.counts node)).1.val := by omega
  unfold NodeLedger.settleFailure
  simp only [decide_eq_false hno]
  split
  · cases l.lastGood node <;> rfl
  · rfl

namespace Pass

/-- A probe that evicts its channel replays what the ledger keeps. -/
theorem settleProbe_evicts (l : NodeLedger K I) (node : K) (verdict : ProbeVerdict) (inventory : Option I)
    (hevict : (settleProbe l node verdict inventory).1.evictChannel = true)
    (hkept : ((settleProbe l node verdict inventory).2.lastGood node).isSome = true) :
    (settleProbe l node verdict inventory).1.inventory.isSome = true := by
  have hfailure : ∀ (live : Option I) (evictAfter : Nat) (kind : FailureKind),
      ((l.settleFailure node live evictAfter kind).2.lastGood node).isSome = true →
        (l.settleFailure node live evictAfter kind).1.inventory.isSome = true := by
    intro live evictAfter kind h
    obtain ⟨kept, -, hinventory, hgood⟩ := settleFailure_keeps l node live evictAfter kind
    rw [hgood] at h
    rw [hinventory, Option.isSome_or, h, Bool.true_or]
  cases verdict with
  | deferred => cases hevict
  | aliveButIncomplete => exact hfailure none arrivalReplayEvictAfter .arrivalReplay hkept
  | failed => exact hfailure inventory channelEvictAfter .probe hkept
  | healthy complete => cases hevict

theorem settleProbe_first (l : NodeLedger K I) (node : K) (verdict : ProbeVerdict) (inventory : Option I)
    (hprobe : (l.counts node).probe.val = 0) (hreplay : (l.counts node).arrivalReplay.val = 0) :
    (settleProbe l node verdict inventory).1.evictChannel = false := by
  cases verdict with
  | deferred => rfl
  | aliveButIncomplete => exact settleFailure_first l node none .arrivalReplay (by decide) hprobe hreplay
  | failed => exact settleFailure_first l node inventory .probe (by decide) hprobe hreplay
  | healthy complete => rfl

end Pass

/-! ## A node after a pass -/

namespace Spot

/-- A pass published an inventory of the node. -/
def Shows (s : Spot K C I) : Prop := s.inventories ≠ []

/-- What a pass may do to a node that it found with this channel, kept inventory and eviction, and with what was
retired of it before the listing was sorted. -/
structure Moves (env : Surroundings K C I) (node : K) (channel : Option (ChannelState C)) (lastGood : Option I)
    (evicted : Bool) (retired : List (K × C)) (s : Spot K C I) : Prop where
  publishes : ∀ published c, s.registry = some published → c ∈ published → s.channel = some (.active c)
  serves : ∀ c, s.channel = some (.active c) → s.evicted = false ∧ s.retired = retired ∧
    (channel = some (.active c) ∧ s.opened = [] ∨
      channel = none ∧ s.opened = [(node, c)] ∧ s.toOpen = [node] ∧ node ∈ env.listing ∧
        env.openHidpp node = .opened c)
  drains : ∀ c, s.channel = some (.retiring c) → s.opened = [] ∧
    (channel = some (.retiring c) ∧ s.retired = retired ∨ channel = some (.active c) ∧ s.retired = retired ++ [(node, c)])
  frees : s.channel = none → s.opened = [] ∧
    (s.retired = retired ∨ ∃ c, channel = some (.active c) ∧ s.retired = retired ++ [(node, c)]) ∧
    ∀ c, channel = some (.active c) ∨ channel = some (.retiring c) → env.isHeld c = false
  opens : s.toOpen ≠ [] → channel = none ∧ s.released = [] ∧ s.toOpen = [node]
  replaces : s.opened ≠ [] → (node ∈ s.replaced ↔ (evicted = true ∧ lastGood.isSome = true) ∧ s.Shows)
  retires : s.retired ≠ retired → (s.evicted = true → s.lastGood.isSome = true → s.Shows) ∧
    (s.Shows → s.evicted = true ∧ s.channel ≠ none)
  waits : (∀ c, channel ≠ some (.active c)) → s.opened = [] → (node ∈ env.listing → env.openHidpp node ≠ .notHidpp) →
    (s.evicted = true → s.lastGood.isSome = true → (evicted = true ∧ lastGood.isSome = true) ∧ s.Shows) ∧
    (s.Shows → s.lastGood.isSome = true ∧ s.evicted = evicted)

theorem settleUnhealthyNode_spec (s : Spot K C I) (node : K) :
    ∃ kept failures, (kept = none ∨ kept = s.lastGood) ∧ s.settleUnhealthyNode node = { s with
      lastGood := kept, failures := failures, settled := s.settled ++ [node],
      inventories := s.inventories ++ (kept.map fun inventory => (node, inventory)).toList } := by
  obtain ⟨kept, hkept, hinventory, hgood⟩ := settleFailure_keeps s.ledger node none channelEvictAfter .probe
  refine ⟨kept, (s.ledger.settleFailure node none channelEvictAfter .probe).2.failures node, hkept, ?_⟩
  rw [Option.or_none] at hinventory
  rw [settleUnhealthyNode, recordSettled, withLedger]
  show ({ s with
    lastGood := (s.ledger.settleFailure node none channelEvictAfter .probe).2.lastGood node
    failures := (s.ledger.settleFailure node none channelEvictAfter .probe).2.failures node
    settled := s.settled ++ [node]
    inventories := s.inventories ++ ((s.ledger.settleFailure node none channelEvictAfter .probe).1.inventory.map
      fun inventory => (node, inventory)).toList } : Spot K C I) = _
  rw [hinventory, hgood]

variable (env : Surroundings K C I)

/-- A probed node: its channel is evicted, or it is published or withdrawn. -/
theorem settleActive_cases (s : Spot K C I) (node : K) (c : C) (hchannel : s.channel = some (.active c)) :
    ∃ kept failures shown,
      (((kept : Option I).isSome = true → shown.isSome = true) ∧
        (Pass.settleProbe s.ledger node (env.probe node).1 (env.probe node).2).1.evictChannel = true ∧
        s.settleActive env (node, c) = { s with
          lastGood := kept, failures := failures, settled := s.settled ++ [node],
          inventories := s.inventories ++ ((shown : Option I).map fun inventory => (node, inventory)).toList,
          replaced := if shown.isSome then s.replaced else [], registry := s.registry.map fun _ => [],
          channel := some (.retiring c), retired := s.retired ++ [(node, c)], evicted := true }) ∨
      s.settleActive env (node, c) = { s with
        lastGood := kept, failures := failures, settled := s.settled ++ [node],
        inventories := s.inventories ++ (shown.map fun inventory => (node, inventory)).toList,
        replaced := if shown.isSome then s.replaced else [],
        registry := s.registry.map fun published => if shown.isSome then c :: published.tail else [] } := by
  have hkept := Pass.settleProbe_evicts s.ledger node (env.probe node).1 (env.probe node).2
  unfold settleActive
  simp only
  generalize Pass.settleProbe s.ledger node (env.probe node).1 (env.probe node).2 = settled at hkept ⊢
  refine ⟨settled.2.lastGood node, settled.2.failures node, settled.1.inventory, ?_⟩
  cases hevict : settled.1.evictChannel with
  | true =>
    refine .inl ⟨hkept hevict, rfl, ?_⟩
    cases hinventory : settled.1.inventory <;>
      simp [publishSettled, confirmReplaced, recordSettled, withLedger, hevict, hinventory, evict, hchannel,
        ChannelState.retire, ChannelState.serving]
  | false =>
    refine .inr ?_
    cases hinventory : settled.1.inventory <;>
      simp [publishSettled, confirmReplaced, recordSettled, withLedger, hevict, hinventory, publish]

/-- The settling of a prepared node. -/
def settleAll (env : Surroundings K C I) (s : Spot K C I) : Spot K C I :=
  ((s.settleProbed env).settleRetiring).settleOpenFailures

variable {s : Spot K C I}

theorem settleAll_probed (row : K × C) (hactive : s.active = [row]) (hretiring : s.retiring = [])
    (hfailures : s.openFailures = []) : settleAll env s = s.settleActive env row := by
  have hsettles := settles_settleActive env s row
  have hprobed : s.settleProbed env = s.settleActive env row := by
    rw [settleProbed, hactive]
    rfl
  have hretired : (s.settleActive env row).settleRetiring = s.settleActive env row := by
    rw [settleRetiring, hsettles.retiring, hretiring]
    rfl
  rw [settleAll, hprobed, hretired, settleOpenFailures, hsettles.openFailures, hfailures]
  rfl

theorem settleAll_none (hactive : s.active = []) (hretiring : s.retiring = []) (hfailures : s.openFailures = []) :
    settleAll env s = s := by
  rw [settleAll, settleProbed, hactive, List.foldl_nil, settleRetiring, hretiring, List.foldl_nil, settleOpenFailures,
    hfailures, List.foldl_nil]

theorem settleAll_retiring {node : K} (hactive : s.active = []) (hretiring : s.retiring = [node])
    (hfailures : s.openFailures = []) :
    settleAll env s = s.settleUnhealthyNode node := by
  have hsettles := settles_recordSettled s node (s.ledger.settle node false none)
  have hretired : s.settleRetiring = s.settleUnhealthyNode node := by
    rw [settleRetiring, hretiring]
    rfl
  rw [settleAll, settleProbed, hactive, List.foldl_nil, hretired, settleOpenFailures, settleUnhealthyNode,
    hsettles.openFailures, hfailures]
  rfl

theorem settleAll_failed {node : K} (hactive : s.active = []) (hretiring : s.retiring = [])
    (hfailures : s.openFailures = [node]) :
    settleAll env s = s.settleUnhealthyNode node := by
  rw [settleAll, settleProbed, hactive, List.foldl_nil, settleRetiring, hretiring, List.foldl_nil, settleOpenFailures,
    hfailures]
  rfl

section Cases

variable {env : Surroundings K C I} {node : K} {channel : Option (ChannelState C)} {lastGood : Option I}
  {failures : Option FailureCounts} {registry : Option (List C)} {evicted : Bool} {retired : List (K × C)}

/-- A serving channel was probed. -/
theorem moves_probed (c : C)
    (hregistry : ∀ published c', registry = some published → c' ∈ published → c = c') (hevicted : evicted = false) :
    Moves env node (some (.active c)) lastGood evicted retired
      (settleAll env { bare (some (.active c)) lastGood failures registry evicted retired with active := [(node, c)] }) := by
  have hsettle : settleAll env
      { bare (some (.active c)) lastGood failures registry evicted retired with active := [(node, c)] } =
        settleActive env
          { bare (some (.active c)) lastGood failures registry evicted retired with active := [(node, c)] } (node, c) := by
    exact settleAll_probed env (node, c) rfl rfl rfl
  rw [hsettle]
  obtain ⟨kept, failures', shown, ⟨hkept, -, h⟩ | h⟩ := settleActive_cases env
    { bare (some (.active c)) lastGood failures registry evicted retired with active := [(node, c)] } node c rfl
  · rw [h]
    exact
      { publishes := by
          intro published c' hpublished hc'
          obtain ⟨_, _, rfl⟩ := Option.map_eq_some_iff.1 hpublished
          cases hc'
        serves := by
          rintro c' ⟨⟩
        drains := by
          rintro c' ⟨⟩
          exact ⟨rfl, .inr ⟨rfl, rfl⟩⟩
        frees := by
          rintro ⟨⟩
        opens := fun h => absurd rfl h
        replaces := fun h => absurd rfl h
        retires := fun _ => ⟨fun _ hgood => by
            obtain ⟨inventory, rfl⟩ := Option.isSome_iff_exists.1 (hkept hgood)
            simp [Shows, bare], fun _ => ⟨rfl, by simp⟩⟩
        waits := fun h => absurd rfl (h c) }
  · rw [h]
    exact
      { publishes := by
          intro published c' hpublished hc'
          obtain ⟨published, hregistry', rfl⟩ := Option.map_eq_some_iff.1 hpublished
          have hcc' : c = c' := by
            cases shown with
            | none => cases hc'
            | some inventory =>
              rcases List.mem_cons.1 hc' with hc' | hc'
              · exact hc'.symm
              · exact hregistry published c' hregistry' (List.mem_of_mem_tail hc')
          rw [← hcc']
          rfl
        serves := by
          rintro c' ⟨⟩
          exact ⟨hevicted, rfl, .inl ⟨rfl, rfl⟩⟩
        drains := by
          rintro c' ⟨⟩
        frees := by
          rintro ⟨⟩
        opens := fun h => absurd rfl h
        replaces := fun h => absurd rfl h
        retires := fun h => absurd rfl h
        waits := fun h => absurd rfl (h c) }

/-- A node that waits for its channel, or would not open. -/
theorem moves_unhealthy {s : Spot K C I} (hopened : s.opened = []) (hinventories : s.inventories = [])
    (hactive : ∀ c, s.channel ≠ some (.active c)) (hchannel : ∀ c, s.channel = some (.retiring c) → channel = s.channel)
    (hwaiting : ∀ c, channel ≠ some (.active c))
    (hfreed : s.channel = none → ∀ c, channel = some (.retiring c) → env.isHeld c = false)
    (hgood : s.lastGood = lastGood) (hevicted : s.evicted = evicted) (hretired : s.retired = retired)
    (hregistry : ∀ published c, s.registry = some published → c ∈ published → False)
    (hopens : s.toOpen ≠ [] → channel = none ∧ s.released = [] ∧ s.toOpen = [node]) :
    Moves env node channel lastGood evicted retired (s.settleUnhealthyNode node) := by
  obtain ⟨kept, failures', hkept, h⟩ := s.settleUnhealthyNode_spec node
  rw [h]
  have hshows : (s.settleUnhealthyNode node).Shows ↔ kept.isSome = true := by
    rw [h, Shows, hinventories]
    cases kept <;> simp
  rw [h] at hshows
  exact
    { publishes := fun published c hpublished hc => (hregistry published c hpublished hc).elim
      serves := fun c hc => absurd hc (hactive c)
      drains := fun c hc => ⟨hopened, .inl ⟨(hchannel c hc).trans hc, hretired⟩⟩
      frees := fun hnone => ⟨hopened, .inl hretired, fun c hc =>
        hc.elim (fun hc => absurd hc (hwaiting c)) (hfreed hnone c)⟩
      opens := hopens
      replaces := fun h => absurd hopened h
      retires := fun h => absurd hretired h
      waits := by
        intro _ _ _
        refine ⟨fun he hsome => ⟨⟨hevicted ▸ he, ?_⟩, hshows.2 hsome⟩, fun hshown => ⟨hshows.1 hshown, hevicted⟩⟩
        rcases hkept with rfl | rfl
        · cases hsome
        · rwa [← hgood] }

/-- A node that was opened: its counts start afresh, so its first probe does not evict it. -/
theorem moves_opened (c : C) (hlisted : node ∈ env.listing) (hopen : env.openHidpp node = .opened c)
    (hregistry : ∀ published c', registry = some published → c' ∉ published) :
    Moves env node none lastGood evicted retired (settleAll env
      { bare (some (.active c)) lastGood
          (failures.map fun counts => { counts with probe := 0, arrivalReplay := 0 }) registry false retired with
        toOpen := [node], opened := [(node, c)], active := [(node, c)],
        replaced := if evicted && lastGood.isSome then [node] else [] }) := by
  rw [settleAll_probed env (node, c) rfl rfl rfl]
  obtain ⟨kept, failures', shown, ⟨-, hevict, -⟩ | h⟩ := settleActive_cases env
    { bare (some (.active c)) lastGood
        (failures.map fun counts => { counts with probe := 0, arrivalReplay := 0 }) registry false retired with
      toOpen := [node], opened := [(node, c)], active := [(node, c)],
      replaced := if evicted && lastGood.isSome then [node] else [] } node c rfl
  · rw [Pass.settleProbe_first] at hevict
    · cases hevict
    · cases failures <;> rfl
    · cases failures <;> rfl
  · rw [h]
    exact
      { publishes := by
          intro published c' hpublished hc'
          obtain ⟨published, hregistry', rfl⟩ := Option.map_eq_some_iff.1 hpublished
          have hcc' : c' = c := by
            cases shown with
            | none => cases hc'
            | some inventory =>
              rcases List.mem_cons.1 hc' with hc' | hc'
              · exact hc'
              · exact absurd (List.mem_of_mem_tail hc') (hregistry published c' hregistry')
          rw [hcc']
          rfl
        serves := by
          rintro c' ⟨⟩
          exact ⟨rfl, rfl, .inr ⟨rfl, rfl, rfl, hlisted, hopen⟩⟩
        drains := by
          rintro c' ⟨⟩
        frees := by
          rintro ⟨⟩
        opens := fun _ => ⟨rfl, rfl, rfl⟩
        replaces := by
          intro _
          cases shown with
          | none => simp [Shows, bare]
          | some inventory =>
            simp only [Shows, bare]
            split
            · simp
            · rename_i hreplaced
              simp at hreplaced
        retires := fun h => absurd rfl h
        waits := by
          rintro - ⟨⟩ }

omit [DecidableEq K] in
/-- An absent node is forgotten, and so is what drained of it. -/
theorem moves_absent {s : Spot K C I} (hopened : s.opened = []) (hinventories : s.inventories = [])
    (hactive : ∀ c, s.channel ≠ some (.active c)) (hevicted : s.evicted = false)
    (hregistry : ∀ published c, s.registry = some published → c ∈ published → False)
    (hopens : s.toOpen = [])
    (hdrains : ∀ c, s.channel = some (.retiring c) →
      channel = some (.retiring c) ∧ s.retired = retired ∨ channel = some (.active c) ∧ s.retired = retired ++ [(node, c)])
    (hfrees : s.channel = none →
      (s.retired = retired ∨ ∃ c, channel = some (.active c) ∧ s.retired = retired ++ [(node, c)]) ∧
      ∀ c, channel = some (.active c) ∨ channel = some (.retiring c) → env.isHeld c = false) :
    Moves env node channel lastGood evicted retired s :=
  have hhidden : ¬s.Shows := fun h => h hinventories
  { publishes := fun published c hpublished hc => (hregistry published c hpublished hc).elim
    serves := fun c hc => absurd hc (hactive c)
    drains := fun c hc => ⟨hopened, hdrains c hc⟩
    frees := fun hnone => ⟨hopened, hfrees hnone⟩
    opens := fun h => absurd hopens h
    replaces := fun h => absurd hopened h
    retires := fun _ => ⟨fun he => absurd he (by simp [hevicted]), fun h => absurd h hhidden⟩
    waits := fun _ _ _ => ⟨fun he => absurd he (by simp [hevicted]), fun h => absurd h hhidden⟩ }

/-- What the registry publishes of the node is its serving channel. -/
def PublishesServing (channel : Option (ChannelState C)) (registry : Option (List C)) : Prop :=
  ∀ published c, registry = some published → c ∈ published → channel = some (.active c)

/-- **What a pass does to a node**, once what was reported dead is retired. -/
theorem moves_prepared {atOpen atReap : C → Bool} (hnodup : env.listing.Nodup)
    (hregistry : PublishesServing channel registry) (hevicted : ∀ c, channel = some (.active c) → evicted = false)
    (hopen : ∀ c, atOpen c = true → env.isHeld c = false) (hreap : ∀ c, atReap c = true → env.isHeld c = false) :
    Moves env node channel lastGood evicted retired
      (settleAll env ((bare channel lastGood failures registry evicted retired).prepared env atOpen atReap node)) := by
  have hunpublished : (∀ c, channel ≠ some (.active c)) →
      ∀ published c, registry = some published → c ∈ published → False :=
    fun hactive published c hpublished hc => hactive c (hregistry published c hpublished hc)
  have hcleared : ∀ published c, (registry.map fun _ => ([] : List C)) = some published → c ∈ published → False := by
    intro published c hpublished hc
    obtain ⟨_, _, rfl⟩ := Option.map_eq_some_iff.1 hpublished
    cases hc
  by_cases hlisted : node ∈ env.listing
  · rcases channel with _ | (c | c)
    · have hnone := hunpublished (by simp)
      cases hanswer : env.openHidpp node with
      | opened c =>
        rw [prepared_opened hnodup hlisted c hanswer]
        exact moves_opened c hlisted hanswer fun published c' hpublished hc' => hnone published c' hpublished hc'
      | notHidpp =>
        rw [prepared_notHidpp hnodup hlisted hanswer, settleAll_none env rfl rfl rfl]
        exact
          { publishes := fun published c hpublished hc => (hnone published c hpublished hc).elim
            serves := by
              rintro c ⟨⟩
            drains := by
              rintro c ⟨⟩
            frees := fun _ => ⟨rfl, .inl rfl, by simp⟩
            opens := fun _ => ⟨rfl, rfl, rfl⟩
            replaces := fun h => absurd rfl h
            retires := fun h => absurd rfl h
            waits := fun _ _ hspeaks => absurd hanswer (hspeaks hlisted) }
      | failed =>
        rw [prepared_failed hnodup hlisted hanswer, settleAll_failed env rfl rfl rfl]
        exact moves_unhealthy rfl rfl (by simp [bare]) (by simp [bare]) (by simp) (by simp) rfl rfl rfl hnone
          fun _ => ⟨rfl, rfl, rfl⟩
    · rw [prepared_active hnodup hlisted c]
      exact moves_probed c (fun published c' hpublished hc' => by cases hregistry published c' hpublished hc'; rfl)
        (hevicted c rfl)
    · rw [prepared_retiring hnodup hlisted c, settleAll_retiring env rfl rfl rfl]
      cases hq : atOpen c with
      | true =>
        exact moves_unhealthy rfl rfl (by simp [bare]) (by simp [bare]) (by simp)
          (by rintro - c' ⟨⟩; exact hopen c hq) rfl rfl rfl (hunpublished (by simp)) fun h => absurd rfl h
      | false =>
        exact moves_unhealthy rfl rfl (by simp [bare]) (by simp [bare]) (by simp) (by simp [bare]) rfl rfl rfl
          (hunpublished (by simp)) fun h => absurd rfl h
  · rcases channel with _ | (c | c)
    · rw [prepared_missing hlisted, settleAll_none env rfl rfl rfl]
      exact moves_absent rfl rfl (by simp [bare]) rfl hcleared rfl (by simp [bare]) (by simp [bare])
    · cases hconnected : env.isConnected c with
      | true =>
        rw [prepared_live hlisted c hconnected]
        exact moves_probed c (fun published c' hpublished hc' => by cases hregistry published c' hpublished hc'; rfl)
          (hevicted c rfl)
      | false =>
        rw [prepared_gone hlisted c hconnected, settleAll_none env rfl rfl rfl]
        cases hq : atReap c with
        | true =>
          refine moves_absent rfl rfl (by simp [bare]) rfl hcleared rfl (by simp [bare]) fun _ => ⟨.inr ⟨c, rfl, rfl⟩, ?_⟩
          rintro c' (⟨⟨⟩⟩ | ⟨⟨⟩⟩)
          exact hreap c hq
        | false =>
          refine moves_absent rfl rfl (by simp [bare]) rfl hcleared rfl ?_ (by simp [bare])
          rintro c' ⟨⟩
          exact .inr ⟨rfl, rfl⟩
    · rw [prepared_draining hlisted c, settleAll_none env rfl rfl rfl]
      cases hq : atReap c with
      | true =>
        refine moves_absent rfl rfl (by simp [bare]) rfl hcleared rfl (by simp [bare]) fun _ => ⟨.inl rfl, ?_⟩
        rintro c' (⟨⟨⟩⟩ | ⟨⟨⟩⟩)
        exact hreap c hq
      | false =>
        refine moves_absent rfl rfl (by simp [bare]) rfl hcleared rfl ?_ (by simp [bare])
        rintro c' ⟨⟩
        exact .inl ⟨rfl, rfl⟩

end Cases

/-- **What a whole pass may do to a node** that it found with this channel, kept inventory and eviction. -/
structure Round (env : Surroundings K C I) (node : K) (channel : Option (ChannelState C)) (lastGood : Option I)
    (evicted : Bool) (s : Spot K C I) : Prop where
  publishes : PublishesServing s.channel s.registry
  serves : ∀ c, s.channel = some (.active c) → s.evicted = false ∧ s.retired = [] ∧
    (channel = some (.active c) ∧ s.opened = [] ∨
      channel = none ∧ s.opened = [(node, c)] ∧ s.toOpen = [node] ∧ node ∈ env.listing ∧
        env.openHidpp node = .opened c)
  drains : ∀ c, s.channel = some (.retiring c) → s.opened = [] ∧
    (channel = some (.retiring c) ∧ s.retired = [] ∨ channel = some (.active c) ∧ s.retired = [(node, c)])
  frees : s.channel = none → s.opened = [] ∧
    (s.retired = [] ∨ ∃ c, channel = some (.active c) ∧ s.retired = [(node, c)]) ∧
    ∀ c, channel = some (.active c) ∨ channel = some (.retiring c) → env.isHeld c = false
  opens : s.toOpen ≠ [] → channel = none ∧ s.released = [] ∧ s.toOpen = [node]
  replaces : s.opened ≠ [] → (node ∈ s.replaced ↔ (evicted = true ∧ lastGood.isSome = true) ∧ s.Shows)
  retires : (node ∈ env.listing → env.openHidpp node ≠ .notHidpp) → s.retired ≠ [] →
    (s.evicted = true → s.lastGood.isSome = true → s.Shows) ∧
      (s.Shows → s.evicted = true ∧ (s.channel = none → s.lastGood.isSome = true))
  waits : (node ∈ env.listing → env.openHidpp node ≠ .notHidpp) → (∀ c, channel ≠ some (.active c)) → s.opened = [] →
    (s.evicted = true → s.lastGood.isSome = true → (evicted = true ∧ lastGood.isSome = true) ∧ s.Shows) ∧
    (s.Shows → s.lastGood.isSome = true ∧ s.evicted = evicted)

section Rounds

variable {env : Surroundings K C I} {node : K} {channel : Option (ChannelState C)} {lastGood : Option I}
  {evicted : Bool} {s : Spot K C I}

omit [DecidableEq K] in
theorem Moves.round (h : Moves env node channel lastGood evicted [] s) :
    Round env node channel lastGood evicted s where
  publishes := h.publishes
  serves := h.serves
  drains := h.drains
  frees := h.frees
  opens := h.opens
  replaces := h.replaces
  retires := fun _ hretired => ⟨(h.retires hretired).1, fun hshows =>
    ⟨((h.retires hretired).2 hshows).1, fun hnone => absurd hnone ((h.retires hretired).2 hshows).2⟩⟩
  waits := fun hspeaks hwaiting hopened => h.waits hwaiting hopened hspeaks

omit [DecidableEq K] in
/-- A channel that was reported dead is retired before the listing is sorted. -/
theorem Moves.round_reported {c : C} (h : Moves env node (some (.retiring c)) lastGood true [(node, c)] s) :
    Round env node (some (.active c)) lastGood evicted s := by
  have hunopened : s.opened = [] := by
    rcases hchannel : s.channel with _ | (c' | c')
    · exact (h.frees hchannel).1
    · rcases (h.serves c' hchannel).2.2 with ⟨hc, -⟩ | ⟨hc, -⟩
      · cases hc
      · cases hc
    · exact (h.drains c' hchannel).1
  exact
    { publishes := h.publishes
      serves := by
        intro c' hchannel
        rcases (h.serves c' hchannel).2.2 with ⟨hc, -⟩ | ⟨hc, -⟩
        · cases hc
        · cases hc
      drains := by
        intro c' hchannel
        rcases (h.drains c' hchannel).2 with ⟨hc, hretired⟩ | ⟨hc, -⟩
        · cases hc
          exact ⟨hunopened, .inr ⟨rfl, hretired⟩⟩
        · cases hc
      frees := by
        intro hchannel
        obtain ⟨-, hretired, hheld⟩ := h.frees hchannel
        refine ⟨hunopened, .inr ⟨c, rfl, ?_⟩, ?_⟩
        · rcases hretired with hretired | ⟨c', hc, -⟩
          · exact hretired
          · cases hc
        · rintro c' (⟨⟨⟩⟩ | ⟨⟨⟩⟩)
          exact hheld c (.inr rfl)
      opens := fun hopens => by cases (h.opens hopens).1
      replaces := fun hopened => absurd hunopened hopened
      retires := by
        intro hspeaks _
        obtain ⟨hkept, hshown⟩ := h.waits (by simp) hunopened hspeaks
        exact ⟨fun hevicted hgood => (hkept hevicted hgood).2,
          fun hshows => ⟨(hshown hshows).2, fun _ => (hshown hshows).1⟩⟩
      waits := fun _ hwaiting => absurd rfl (hwaiting c) }

end Rounds

end Spot

namespace Pass

variable [DecidableEq C]

omit [DecidableEq K] in
theorem isQuiescent_free {env : Surroundings K C I} {p : Pass K C I} {c : C} (h : p.isQuiescent env c = true) :
    env.isHeld c = false := by
  simpa using (Bool.and_eq_true_iff.1 h).1

/-- **What a pass over a listing without repeats does to a node.** -/
theorem round_enumerate (env : Surroundings K C I) (e : Enumerator K C I) (hnodup : env.listing.Nodup) (node : K)
    (hregistry : Spot.PublishesServing (e.channels.channels.get node) (e.registry.map (publishedAt · node)))
    (hevicted : ∀ c, e.channels.channels.get node = some (.active c) → e.evictedNodes node = false) :
    Spot.Round env node (e.channels.channels.get node) (e.ledger.lastGood node) (e.evictedNodes node)
      ((enumerate env e).spot node) := by
  rw [spot_enumerate, spot_begin]
  change Spot.Round _ _ _ _ _ (Spot.settleAll env ((Spot.retireReportedChannels env node _).prepared env _ _ node))
  have hopen : ∀ c, atOpen env e c = true → env.isHeld c = false := fun c h => isQuiescent_free h
  have hreap : ∀ c, atReap env e c = true → env.isHeld c = false := fun c h => isQuiescent_free h
  rcases Spot.retireReported_cases env node (e.channels.channels.get node) (e.ledger.lastGood node)
    (e.ledger.failures node) (e.registry.map (publishedAt · node)) (e.evictedNodes node) with
    hreported | ⟨c, hactive, -, hreported⟩
  · rw [hreported]
    exact (Spot.moves_prepared hnodup hregistry hevicted hopen hreap).round
  · rw [hreported, hactive]
    refine (Spot.moves_prepared hnodup ?_ (by simp) hopen hreap).round_reported
    rintro published c' ⟨⟩ hc'
    cases hc'

end Pass

end Inventory
end OpenLogi
