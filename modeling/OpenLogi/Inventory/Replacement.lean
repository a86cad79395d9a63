import OpenLogi.Inventory.Lifecycle
/-!
# Replacement — one open channel per node, and what its replacement is reported as

Passes, and the users that hold, drop and report channels between them; within a pass each draining channel is looked at
once, so what its users do meanwhile is done before or after.  The log has every pass, newest first.
-/
namespace OpenLogi
namespace Inventory

variable {K C I : Type}

def OpenResult.channel : OpenResult C → Option C
  | .opened channel => some channel
  | .notHidpp => none
  | .failed => none

def Enumerator.withBackend (registry : Option (Registry.NodeRegistry K C)) : Enumerator K C I where
  channels := .empty
  ledger := .empty
  registry := registry
  evictedNodes := fun _ => false
  replacedLastTick := []

namespace Pass

/-- The pass published an inventory of the node. -/
def Publishes (p : Pass K C I) (node : K) : Prop := ∃ row ∈ p.inventories, row.1 = node

def Retires (p : Pass K C I) (node : K) : Prop := ∃ channel, (node, channel) ∈ p.retired

def Opens (p : Pass K C I) (node : K) : Prop := ∃ channel, (node, channel) ∈ p.opened

end Pass

structure System (K C I : Type) where
  enumerator : Enumerator K C I
  /-- What capture reported dead since the last pass. -/
  reports : List C := []
  /-- The channels that others hold, once for each hold. -/
  holders : List C := []
  log : List (Pass K C I) := []
  /-- Every channel that was opened, and for which node. -/
  history : List (K × C) := []

namespace System

inductive Event (K C I : Type) where
  | pass (env : Surroundings K C I)
  | hold (channel : C)
  | drop (channel : C)
  | reportDead (shared : Registry.SharedChannel C)

def isDirect : Hid.DeviceRoute → Bool
  | .direct _ _ => true
  | .bolt _ _ => false
  | .unifying _ _ => false
  | .rawHid _ _ _ _ _ => false

variable [DecidableEq K] [DecidableEq C]

/-- A listing without repeats, whose nodes answer `Ok(None)` by what they are; an open makes a connection of its own. -/
def Admissible (speaks : K → Bool) (s : System K C I) (env : Surroundings K C I) : Prop :=
  env.listing.Nodup ∧ (∀ node ∈ env.listing, env.openHidpp node = .notHidpp ↔ speaks node = false) ∧
    (∀ node ∈ env.listing, ∀ row ∈ s.history, (env.openHidpp node).channel ≠ some row.2) ∧
    ∀ node ∈ env.listing, ∀ other ∈ env.listing,
      (env.openHidpp node).channel = (env.openHidpp other).channel → (env.openHidpp node).channel = none ∨ node = other

instance (speaks : K → Bool) (s : System K C I) (env : Surroundings K C I) : Decidable (s.Admissible speaks env) :=
  inferInstanceAs (Decidable (_ ∧ _ ∧ _ ∧ _))

def surroundings (s : System K C I) (env : Surroundings K C I) : Surroundings K C I :=
  { env with reported := s.reports, isHeld := fun channel => decide (channel ∈ s.holders) }

def enumerate (s : System K C I) (env : Surroundings K C I) : Pass K C I :=
  Pass.enumerate (s.surroundings env) s.enumerator

def step (speaks : K → Bool) (s : System K C I) : Event K C I → Option (System K C I)
  | .pass env =>
    if s.Admissible speaks env then
      some
        { s with
          enumerator := (s.enumerate env).toEnumerator
          reports := []
          log := s.enumerate env :: s.log
          history := (s.enumerate env).opened ++ s.history }
    else none
  | .hold channel =>
    if Pass.published s.enumerator.registry channel ∨ channel ∈ s.holders then
      some { s with holders := channel :: s.holders }
    else none
  | .drop channel => if channel ∈ s.holders then some { s with holders := s.holders.erase channel } else none
  | .reportDead shared =>
    if isDirect shared.route ∧ s.enumerator.registry.any fun registry => registry.isCurrent shared then
      some { s with reports := shared.channel :: s.reports }
    else none

def init (registry : Bool) : System K C I where
  enumerator := .withBackend (if registry then some .default else none)

/-! ## What holds -/

def channelOf (s : System K C I) (node : K) : Option (ChannelState C) := s.enumerator.channels.channels.get node

/-- The cache has the channel, serving or draining. -/
def Caches (s : System K C I) (node : K) (channel : C) : Prop :=
  s.channelOf node = some (.active channel) ∨ s.channelOf node = some (.retiring channel)

def HeldByAnyone (s : System K C I) (channel : C) : Prop :=
  channel ∈ s.holders ∨ Pass.published s.enumerator.registry channel = true ∨ ∃ node, s.Caches node channel

/-- The pass `r` retired the node, and none of `mid`, which are all the passes since, opened it. -/
def RetiredSince (s : System K C I) (node : K) (r : Pass K C I) (mid : List (Pass K C I)) : Prop :=
  (∃ before, s.log = mid ++ r :: before) ∧ r.Retires node ∧ ∀ p ∈ mid, ¬p.Opens node

def ShownSince (node : K) (r : Pass K C I) (mid : List (Pass K C I)) : Prop := ∀ p ∈ mid ++ [r], p.Publishes node

/-- The registry publishes no retired channel. -/
def PublishesServing (s : System K C I) : Prop := ∀ channel, Pass.published s.enumerator.registry channel = true →
  (∃ node, s.channelOf node = some (.active channel)) ∧ ∀ p ∈ s.log, ∀ row ∈ p.retired, row.2 ≠ channel

/-- What a pass does: no node is opened of which a channel is still held, or was released by this pass, or twice; and a
node that is opened again is reported as replaced exactly if it was published throughout. -/
structure Replaces (s : System K C I) (p : Pass K C I) : Prop where
  apart : ∀ node ∈ p.toOpen, ∀ channel, (node, channel) ∈ s.history → ¬s.HeldByAnyone channel
  later : ∀ row ∈ p.released, row.1 ∉ p.toOpen
  once : p.toOpen.Nodup
  opened : ∀ row ∈ p.opened, row.1 ∈ p.toOpen
  replaced : ∀ node, p.Opens node → ∀ r mid, s.RetiredSince node r mid →
    (node ∈ p.replacedLastTick ↔ p.Publishes node ∧ ShownSince node r mid)

structure Inv (speaks : K → Bool) (s : System K C I) : Prop where
  serving : ∀ node, Spot.PublishesServing (s.channelOf node) (s.enumerator.registry.map (Pass.publishedAt · node))
  cached : ∀ node channel, s.Caches node channel → (node, channel) ∈ s.history
  once : (s.history.map Prod.snd).Nodup
  held : ∀ channel ∈ s.holders, ∃ node, s.Caches node channel
  speaks : ∀ row ∈ s.history, speaks row.1 = true
  fresh : ∀ node channel, s.channelOf node = some (.active channel) → s.enumerator.evictedNodes node = false
  retired : ∀ p ∈ s.log, ∀ row ∈ p.retired, row ∈ s.history ∧ ∀ node, s.channelOf node ≠ some (.active row.2)
  waits : ∀ node r mid, s.RetiredSince node r mid →
    (∀ channel, s.channelOf node ≠ some (.active channel)) ∧
    (s.enumerator.evictedNodes node = true → (s.enumerator.ledger.lastGood node).isSome = true → ShownSince node r mid) ∧
    (ShownSince node r mid → s.enumerator.evictedNodes node = true ∧
      (mid ≠ [] ∨ s.channelOf node = none → (s.enumerator.ledger.lastGood node).isSome = true))

variable {speaks : K → Bool} {s s' : System K C I}

omit [DecidableEq C] in
theorem inv_init (registry : Bool) : (init registry : System K C I).Inv speaks where
  serving := by
    intro node published channel hpublished hchannel
    cases registry with
    | true =>
      cases hpublished
      cases hchannel
    | false => cases hpublished
  cached := by
    rintro node channel (h | h)
    · cases h
    · cases h
  once := List.nodup_nil
  held := by simp [init]
  speaks := by simp [init]
  fresh := by
    rintro node channel ⟨⟩
  retired := by simp [init]
  waits := by
    rintro node r mid ⟨⟨before, h⟩, -⟩
    cases mid <;> cases h

theorem Inv.round (hi : s.Inv speaks) {env : Surroundings K C I} (ha : s.Admissible speaks env) (node : K) :
    Spot.Round (s.surroundings env) node (s.channelOf node) (s.enumerator.ledger.lastGood node)
      (s.enumerator.evictedNodes node) ((s.enumerate env).spot node) :=
  Pass.round_enumerate (s.surroundings env) s.enumerator ha.1 node (hi.serving node) (hi.fresh node)

omit [DecidableEq C] in
theorem Inv.same_node (hi : s.Inv speaks) {node other : K} {channel : C} (h : (node, channel) ∈ s.history)
    (h' : (other, channel) ∈ s.history) : node = other :=
  congrArg Prod.fst (List.inj_on_of_nodup_map hi.once h h' rfl)

theorem Inv.published (hi : s.Inv speaks) {channel : C} (h : Pass.published s.enumerator.registry channel = true) :
    ∃ node, s.channelOf node = some (.active channel) := by
  obtain ⟨registry, hregistry, hcontains⟩ := (Option.any_eq_true _ _).1 h
  obtain ⟨publication, hmem, hchannel⟩ := List.any_eq_true.1 hcontains
  refine ⟨publication.node, hi.serving publication.node (Pass.publishedAt registry publication.node) channel ?_ ?_⟩
  · rw [hregistry]
    rfl
  · exact List.mem_map.2 ⟨publication, List.mem_filter.2 ⟨hmem, by simp⟩, by simpa using hchannel⟩

omit [DecidableEq K] [DecidableEq C] in
/-- A node that was asked speaks HID++, if it has a channel in the history. -/
theorem Admissible.answers {env : Surroundings K C I} (ha : s.Admissible speaks env) {node : K}
    (hspeaks : speaks node = true) : node ∈ env.listing → env.openHidpp node ≠ .notHidpp := by
  intro hlisted hanswer
  rw [(ha.2.1 node hlisted).1 hanswer] at hspeaks
  cases hspeaks

/-! ## A pass -/

section Passes

variable {env : Surroundings K C I}

theorem replacedLastTick_enumerate (s : System K C I) (env : Surroundings K C I) :
    (s.enumerate env).replacedLastTick = (s.enumerate env).replaced := rfl

-- what else a pass does is known from its rounds
attribute [local irreducible] System.enumerate

variable {p : Pass K C I} {node : K} {channel : C}

omit [DecidableEq C] in
theorem mem_spot_opened :
    (node, channel) ∈ p.opened ↔ (node, channel) ∈ (p.spot node).opened := by
  simp [Pass.spot]

omit [DecidableEq C] in
theorem mem_spot_retired :
    (node, channel) ∈ p.retired ↔ (node, channel) ∈ (p.spot node).retired := by
  simp [Pass.spot]

omit [DecidableEq C] in
theorem spot_channel (p : Pass K C I) (node : K) : (p.spot node).channel = p.channels.channels.get node := rfl

omit [DecidableEq C] in
theorem publishes_iff_shows : p.Publishes node ↔ (p.spot node).Shows := by
  simp [Pass.spot, Pass.Publishes, Spot.Shows, List.filter_eq_nil_iff]

/-- What a pass opens had no channel. -/
theorem Inv.opened (hi : s.Inv speaks) (ha : s.Admissible speaks env) (h : (node, channel) ∈ (s.enumerate env).opened) :
    s.channelOf node = none ∧ node ∈ (s.enumerate env).toOpen ∧ node ∈ env.listing ∧
      env.openHidpp node = .opened channel ∧
      (s.enumerate env).channels.channels.get node = some (.active channel) := by
  have hround := hi.round ha node
  have hmem := mem_spot_opened.1 h
  rw [← spot_channel]
  rcases hafter : ((s.enumerate env).spot node).channel with _ | (c | c)
  · rw [(hround.frees hafter).1] at hmem
    cases hmem
  · rcases (hround.serves c hafter).2.2 with ⟨-, hopened⟩ | ⟨hnone, hopened, hqueued, hlisted, hanswer⟩
    · rw [hopened] at hmem
      cases hmem
    · rw [hopened] at hmem
      cases List.mem_singleton.1 hmem
      have hmem : node ∈ ((s.enumerate env).spot node).toOpen := by simp [hqueued]
      exact ⟨hnone, (List.mem_filter.1 hmem).1, hlisted, hanswer, rfl⟩
  · rw [(hround.drains c hafter).1] at hmem
    cases hmem

/-- What a pass retires was serving, and serves no more. -/
theorem Inv.retires (hi : s.Inv speaks) (ha : s.Admissible speaks env)
    (h : (node, channel) ∈ (s.enumerate env).retired) : s.channelOf node = some (.active channel) ∧
      ∀ c, (s.enumerate env).channels.channels.get node ≠ some (.active c) := by
  have hround := hi.round ha node
  have hmem := mem_spot_retired.1 h
  rw [← spot_channel]
  rcases hafter : ((s.enumerate env).spot node).channel with _ | (c | c)
  · rcases (hround.frees hafter).2.1 with hretired | ⟨c, hactive, hretired⟩
    · rw [hretired] at hmem
      cases hmem
    · rw [hretired] at hmem
      cases List.mem_singleton.1 hmem
      exact ⟨hactive, by simp⟩
  · rw [(hround.serves c hafter).2.1] at hmem
    cases hmem
  · rcases (hround.drains c hafter).2 with ⟨-, hretired⟩ | ⟨hactive, hretired⟩
    · rw [hretired] at hmem
      cases hmem
    · rw [hretired] at hmem
      cases List.mem_singleton.1 hmem
      exact ⟨hactive, by simp⟩

/-- A channel the cache has after a pass it had before, or the pass opened it. -/
theorem Inv.caches (hi : s.Inv speaks) (ha : s.Admissible speaks env)
    (h : (s.enumerate env).channels.channels.get node = some (.active channel) ∨
      (s.enumerate env).channels.channels.get node = some (.retiring channel)) :
    s.Caches node channel ∨ (node, channel) ∈ (s.enumerate env).opened := by
  have hround := hi.round ha node
  rw [← spot_channel] at h
  rcases h with hafter | hafter
  · rcases (hround.serves channel hafter).2.2 with ⟨hactive, -⟩ | ⟨-, hopened, -⟩
    · exact .inl (.inl hactive)
    · exact .inr (mem_spot_opened.2 (by simp [hopened]))
  · rcases (hround.drains channel hafter).2 with ⟨hretiring, -⟩ | ⟨hactive, -⟩
    · exact .inl (.inr hretiring)
    · exact .inl (.inl hactive)

/-- What a pass opens has channels of its own. -/
theorem Inv.opened_fresh (hi : s.Inv speaks) (ha : s.Admissible speaks env)
    (h : (node, channel) ∈ (s.enumerate env).opened) : ∀ row ∈ s.history, row.2 ≠ channel := by
  rintro row hrow rfl
  obtain ⟨-, -, hlisted, hanswer, -⟩ := hi.opened ha h
  exact ha.2.2.1 node hlisted row hrow (by rw [hanswer]; rfl)

theorem Inv.opened_nodup (hi : s.Inv speaks) (ha : s.Admissible speaks env) : (s.enumerate env).opened.Nodup := by
  refine List.nodup_iff_count_le_one.2 fun row => ?_
  have hround := hi.round ha row.1
  have hlength : ((s.enumerate env).spot row.1).opened.length ≤ 1 := by
    rcases hafter : ((s.enumerate env).spot row.1).channel with _ | (c | c)
    · simp [(hround.frees hafter).1]
    · rcases (hround.serves c hafter).2.2 with ⟨-, hopened⟩ | ⟨-, hopened, -⟩
      · simp [hopened]
      · simp [hopened]
    · simp [(hround.drains c hafter).1]
  have hcount : (s.enumerate env).opened.count row = ((s.enumerate env).spot row.1).opened.count row :=
    (List.count_filter (by simp)).symm
  rw [hcount]
  exact Nat.le_trans List.count_le_length hlength

/-- The history after a pass still has each channel once. -/
theorem Inv.once_pass (hi : s.Inv speaks) (ha : s.Admissible speaks env) :
    (((s.enumerate env).opened ++ s.history).map Prod.snd).Nodup := by
  rw [List.map_append, List.nodup_append]
  refine ⟨(hi.opened_nodup ha).map_on ?_, hi.once, ?_⟩
  · rintro ⟨node, channel⟩ h ⟨other, channel'⟩ h' heq
    have heq : channel = channel' := heq
    subst heq
    obtain ⟨-, -, hlisted, hanswer, -⟩ := hi.opened ha h
    obtain ⟨-, -, hlisted', hanswer', -⟩ := hi.opened ha h'
    rcases ha.2.2.2 node hlisted other hlisted' (by rw [hanswer, hanswer']) with hnone | rfl
    · rw [hanswer] at hnone
      cases hnone
    · rfl
  · intro channel h channel' h' heq
    obtain ⟨row, hrow, rfl⟩ := List.mem_map.1 h
    obtain ⟨row', hrow', rfl⟩ := List.mem_map.1 h'
    exact hi.opened_fresh ha hrow row' hrow' heq.symm

/-- What is known of the node a pass did not open, for as long as nothing opens it. -/
theorem Inv.waits_pass (hi : s.Inv speaks) (ha : s.Admissible speaks env) {r : Pass K C I} {mid : List (Pass K C I)}
    (h : s.RetiredSince node r mid) (hclosed : ¬(s.enumerate env).Opens node) :
    (∀ channel, (s.enumerate env).channels.channels.get node ≠ some (.active channel)) ∧
    ((s.enumerate env).evictedNodes node = true → ((s.enumerate env).ledger.lastGood node).isSome = true →
      ShownSince node r (s.enumerate env :: mid)) ∧
    (ShownSince node r (s.enumerate env :: mid) → (s.enumerate env).evictedNodes node = true ∧
      ((s.enumerate env).ledger.lastGood node).isSome = true) := by
  have hround := hi.round ha node
  obtain ⟨hserving, hkept, hshown⟩ := hi.waits node r mid h
  obtain ⟨⟨before, hlog⟩, ⟨channel, hretired⟩, -⟩ := h
  have hr : r ∈ s.log := by simp [hlog]
  have hspeaks : speaks node = true := hi.speaks _ (hi.retired r hr _ hretired).1
  have hopened : ((s.enumerate env).spot node).opened = [] := by
    refine List.eq_nil_iff_forall_not_mem.2 ?_
    rintro ⟨k, c⟩ hrow
    obtain ⟨hrow, hk⟩ := List.mem_filter.1 hrow
    have hk : k = node := by simpa using hk
    exact hclosed ⟨c, hk ▸ hrow⟩
  obtain ⟨hkept', hshown'⟩ := hround.waits (ha.answers hspeaks) hserving hopened
  refine ⟨fun c hactive => ?_, fun hevicted hgood => ?_, fun hsince => ?_⟩
  · rw [← spot_channel] at hactive
    rcases (hround.serves c hactive).2.2 with ⟨hactive, -⟩ | ⟨-, hrow, -⟩
    · exact hserving c hactive
    · rw [hopened] at hrow
      cases hrow
  · obtain ⟨⟨hevicted, hgood⟩, hshows⟩ := hkept' hevicted hgood
    intro p hp
    rcases List.mem_cons.1 hp with rfl | hp
    · exact publishes_iff_shows.2 hshows
    · exact hkept hevicted hgood p hp
  · obtain ⟨hgood, hevicted⟩ := hshown' (publishes_iff_shows.1 (hsince _ List.mem_cons_self))
    have hbefore : ShownSince node r mid := fun p hp => hsince p (List.mem_cons_of_mem _ hp)
    exact ⟨hevicted.trans (hshown hbefore).1, hgood⟩

/-- What is known of the node a pass retires. -/
theorem Inv.retires_pass (hi : s.Inv speaks) (ha : s.Admissible speaks env) (h : (s.enumerate env).Retires node) :
    (∀ channel, (s.enumerate env).channels.channels.get node ≠ some (.active channel)) ∧
    ((s.enumerate env).evictedNodes node = true → ((s.enumerate env).ledger.lastGood node).isSome = true →
      (s.enumerate env).Publishes node) ∧
    ((s.enumerate env).Publishes node → (s.enumerate env).evictedNodes node = true ∧
      ((s.enumerate env).channels.channels.get node = none →
        ((s.enumerate env).ledger.lastGood node).isSome = true)) := by
  obtain ⟨channel, hretired⟩ := h
  obtain ⟨hactive, hserving⟩ := hi.retires ha hretired
  have hspeaks : speaks node = true := hi.speaks _ (hi.cached node channel (.inl hactive))
  have hne : ((s.enumerate env).spot node).retired ≠ [] := List.ne_nil_of_mem (mem_spot_retired.1 hretired)
  obtain ⟨hkept, hshown⟩ := (hi.round ha node).retires (ha.answers hspeaks) hne
  exact ⟨hserving, fun hevicted hgood => publishes_iff_shows.2 (hkept hevicted hgood),
    fun hshows => hshown (publishes_iff_shows.1 hshows)⟩

/-- The system after a pass. -/
def passed (s : System K C I) (env : Surroundings K C I) : System K C I :=
  { s with
    enumerator := (s.enumerate env).toEnumerator
    reports := []
    log := s.enumerate env :: s.log
    history := (s.enumerate env).opened ++ s.history }

theorem channelOf_passed (s : System K C I) (env : Surroundings K C I) (node : K) :
    (s.passed env).channelOf node = ((s.enumerate env).spot node).channel := rfl

/-- A channel that is held stays cached at its node. -/
theorem Inv.held_pass (hi : s.Inv speaks) (ha : s.Admissible speaks env) (hheld : channel ∈ (s.passed env).holders) :
    ∃ node, (s.passed env).Caches node channel := by
  obtain ⟨node, hcached⟩ := hi.held channel hheld
  have hround := hi.round ha node
  refine ⟨node, ?_⟩
  unfold Caches
  rw [channelOf_passed]
  rcases hafter : ((s.enumerate env).spot node).channel with _ | (c | c)
  · have hfree := (hround.frees hafter).2.2 channel hcached
    exact absurd hheld (by simpa [surroundings, System.passed] using hfree)
  · rcases (hround.serves c hafter).2.2 with ⟨hactive, -⟩ | ⟨hnone, -⟩
    · rcases hcached with hcached | hcached
      · rw [hactive] at hcached
        cases hcached
        exact .inl rfl
      · rw [hactive] at hcached
        cases hcached
    · rcases hcached with hcached | hcached
      · rw [hnone] at hcached
        cases hcached
      · rw [hnone] at hcached
        cases hcached
  · rcases (hround.drains c hafter).2 with ⟨hbefore, -⟩ | ⟨hbefore, -⟩
    · rcases hcached with hcached | hcached
      · rw [hbefore] at hcached
        cases hcached
      · rw [hbefore] at hcached
        cases hcached
        exact .inr rfl
    · rcases hcached with hcached | hcached
      · rw [hbefore] at hcached
        cases hcached
        exact .inr rfl
      · rw [hbefore] at hcached
        cases hcached

/-- A channel that a pass retires is opened before, and is served at no node from then on. -/
theorem Inv.retired_pass (hi : s.Inv speaks) (ha : s.Admissible speaks env) (hp : p ∈ (s.passed env).log) {row : K × C}
    (hrow : row ∈ p.retired) :
    row ∈ (s.passed env).history ∧ ∀ node, (s.passed env).channelOf node ≠ some (.active row.2) := by
  have hbefore : row ∈ s.history ∧ (s.channelOf row.1 = some (.active row.2) ∧
      (∀ c, (s.enumerate env).channels.channels.get row.1 ≠ some (.active c)) ∨
        ∀ node, s.channelOf node ≠ some (.active row.2)) := by
    rcases List.mem_cons.1 hp with rfl | hp
    · obtain ⟨hactive, hserving⟩ := hi.retires ha hrow
      exact ⟨hi.cached row.1 row.2 (.inl hactive), .inl ⟨hactive, hserving⟩⟩
    · exact ⟨(hi.retired p hp row hrow).1, .inr (hi.retired p hp row hrow).2⟩
  obtain ⟨hmem, hserving⟩ := hbefore
  refine ⟨List.mem_append_right _ hmem, fun node hafter => ?_⟩
  rw [channelOf_passed] at hafter
  rcases hi.caches ha (.inl ((spot_channel _ node).symm.trans hafter)) with hcached | hopened
  · have hnode : node = row.1 := hi.same_node (hi.cached node row.2 hcached) hmem
    subst hnode
    rcases hserving with ⟨-, hserving⟩ | hserving
    · exact hserving row.2 ((spot_channel _ row.1).symm.trans hafter)
    · rcases ((hi.round ha row.1).serves row.2 hafter).2.2 with ⟨hactive, -⟩ | ⟨hnone, -⟩
      · exact hserving row.1 hactive
      · rcases hcached with hcached | hcached
        · exact hserving row.1 hcached
        · rw [hnone] at hcached
          cases hcached
  · exact hi.opened_fresh ha hopened row hmem rfl

theorem Inv.passed (hi : s.Inv speaks) (ha : s.Admissible speaks env) : (s.passed env).Inv speaks where
  serving := fun node => (hi.round ha node).publishes
  cached := by
    intro node channel h
    rcases hi.caches ha h with h | h
    · exact List.mem_append_right _ (hi.cached node channel h)
    · exact List.mem_append_left _ h
  once := hi.once_pass ha
  held := fun channel => hi.held_pass ha
  speaks := by
    rintro ⟨node, channel⟩ hrow
    rcases List.mem_append.1 hrow with hrow | hrow
    · obtain ⟨-, -, hlisted, hanswer, -⟩ := hi.opened ha hrow
      by_contra hspeaks
      have hnone := (ha.2.1 node hlisted).2 (by simpa using hspeaks)
      rw [hanswer] at hnone
      cases hnone
    · exact hi.speaks _ hrow
  fresh := fun node channel h => ((hi.round ha node).serves channel h).1
  retired := fun p hp row hrow => hi.retired_pass ha hp hrow
  waits := by
    rintro node r mid ⟨⟨before, hlog⟩, hretired, hclosed⟩
    cases mid with
    | nil =>
      cases hlog
      obtain ⟨hserving, hkept, hshown⟩ := hi.retires_pass ha hretired
      refine ⟨hserving, fun hevicted hgood => ?_, fun hsince => ?_⟩
      · intro p hp
        rw [List.mem_singleton.1 hp]
        exact hkept hevicted hgood
      · have hshows := hshown (hsince _ (List.mem_singleton_self _))
        exact ⟨hshows.1, fun hnone => hshows.2 (hnone.resolve_left (absurd rfl))⟩
    | cons p mid =>
      obtain ⟨rfl, hrest⟩ := List.cons.inj hlog
      obtain ⟨hserving, hkept, hshown⟩ := hi.waits_pass ha
        ⟨⟨before, hrest⟩, hretired, fun p hp => hclosed p (List.mem_cons_of_mem _ hp)⟩ (hclosed _ List.mem_cons_self)
      exact ⟨hserving, hkept, fun hsince => ⟨(hshown hsince).1, fun _ => (hshown hsince).2⟩⟩

/-- **What a pass does** to the nodes it opens and releases. -/
theorem Inv.replaces (hi : s.Inv speaks) (ha : s.Admissible speaks env) : s.Replaces (s.enumerate env) := by
  have hqueued : ∀ node ∈ (s.enumerate env).toOpen, s.channelOf node = none ∧
      ((s.enumerate env).spot node).released = [] ∧ ((s.enumerate env).spot node).toOpen = [node] := by
    intro node hnode
    have hmem : node ∈ ((s.enumerate env).spot node).toOpen := List.mem_filter.2 ⟨hnode, by simp⟩
    exact (hi.round ha node).opens (List.ne_nil_of_mem hmem)
  exact
    { apart := by
        intro node hnode channel hhistory hheld
        obtain ⟨other, hcached⟩ : ∃ other, s.Caches other channel := by
          rcases hheld with hheld | hpublished | hcached
          · exact hi.held channel hheld
          · obtain ⟨other, hactive⟩ := hi.published hpublished
            exact ⟨other, .inl hactive⟩
          · exact hcached
        have hsame : other = node := hi.same_node (hi.cached other channel hcached) hhistory
        subst hsame
        rcases hcached with hcached | hcached
        · rw [(hqueued other hnode).1] at hcached
          cases hcached
        · rw [(hqueued other hnode).1] at hcached
          cases hcached
      later := by
        intro row hrow hnode
        have hmem : row ∈ ((s.enumerate env).spot row.1).released := List.mem_filter.2 ⟨hrow, by simp⟩
        rw [(hqueued row.1 hnode).2.1] at hmem
        cases hmem
      once := by
        refine List.nodup_iff_count_le_one.2 fun node => ?_
        by_cases hnode : node ∈ (s.enumerate env).toOpen
        · have hcount : (s.enumerate env).toOpen.count node = ((s.enumerate env).spot node).toOpen.count node :=
            (List.count_filter (by simp)).symm
          exact Nat.le_of_eq (by rw [hcount, (hqueued node hnode).2.2, List.count_singleton_self])
        · rw [List.count_eq_zero.2 hnode]
          exact Nat.zero_le _
      opened := fun row hrow => (hi.opened ha hrow).2.1
      replaced := by
        rintro node ⟨channel, hopened⟩ r mid hsince
        have hne : ((s.enumerate env).spot node).opened ≠ [] := List.ne_nil_of_mem (mem_spot_opened.1 hopened)
        have hreplaced : node ∈ (s.enumerate env).replacedLastTick ↔ node ∈ ((s.enumerate env).spot node).replaced := by
          rw [replacedLastTick_enumerate]
          exact ⟨fun h => List.mem_filter.2 ⟨h, by simp⟩, fun h => (List.mem_filter.1 h).1⟩
        obtain ⟨-, hkept, hshown⟩ := hi.waits node r mid hsince
        rw [hreplaced, (hi.round ha node).replaces hne, publishes_iff_shows]
        constructor
        · rintro ⟨⟨hevicted, hgood⟩, hshows⟩
          exact ⟨hshows, hkept hevicted hgood⟩
        · rintro ⟨hshows, hbefore⟩
          obtain ⟨hevicted, hgood⟩ := hshown hbefore
          exact ⟨⟨hevicted, hgood (.inr (hi.opened ha hopened).1)⟩, hshows⟩ }

end Passes

theorem Inv.step {e : Event K C I} (hi : s.Inv speaks) (h : System.step speaks s e = some s') : s'.Inv speaks := by
  cases e with
  | pass env =>
    simp only [System.step] at h
    split at h
    · rename_i ha
      cases h
      exact hi.passed ha
    · cases h
  | hold channel =>
    simp only [System.step] at h
    split at h
    · rename_i hhold
      cases h
      exact
        { hi with
          held := by
            intro c hc
            rcases List.mem_cons.1 hc with rfl | hc
            · rcases hhold with hpublished | hheld
              · obtain ⟨node, hactive⟩ := hi.published hpublished
                exact ⟨node, .inl hactive⟩
              · exact hi.held c hheld
            · exact hi.held c hc }
    · cases h
  | drop channel =>
    simp only [System.step] at h
    split at h
    · cases h
      exact { hi with held := fun c hc => hi.held c (List.mem_of_mem_erase hc) }
    · cases h
  | reportDead shared =>
    simp only [System.step] at h
    split at h
    · cases h
      exact { hi with }
    · cases h

theorem Inv.publishesServing (hi : s.Inv speaks) : s.PublishesServing := by
  intro channel hpublished
  obtain ⟨node, hactive⟩ := hi.published hpublished
  refine ⟨⟨node, hactive⟩, ?_⟩
  rintro p hp row hrow rfl
  exact (hi.retired p hp row hrow).2 node hactive

/-- **One open channel per node**: in every run of passes and of what others do with the channels between them. -/
theorem one_channel_run (speaks : K → Bool) (registry : Bool) (es : List (Event K C I)) :
    Lib.EveryState (System.step speaks) PublishesServing (init registry) es ∧
      Lib.Along (System.step speaks) (fun s e => ∀ env, e = .pass env → s.Admissible speaks env →
        s.Replaces (s.enumerate env)) (init registry) es := by
  have hstep : ∀ (s : System K C I) e s', s.Inv speaks → System.step speaks s e = some s' → s'.Inv speaks :=
    fun _ _ _ h hs => h.step hs
  refine ⟨fun pre s _ h => ?_, ?_⟩
  · exact (Lib.run_inv (fun s : System K C I => s.Inv speaks) hstep pre _ s (inv_init registry) h).publishesServing
  · exact Lib.along_of_inv (fun s : System K C I => s.Inv speaks) (fun _ _ h _ _ ha => h.replaces ha) hstep
      (inv_init registry)

end System

end Inventory
end OpenLogi
