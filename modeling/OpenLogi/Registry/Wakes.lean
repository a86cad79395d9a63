import OpenLogi.Registry.Election
/-!
# Wakes — inventory at work on the registry

An operation changes the registry under its write lock and wakes the subscribers after it; another may come between.
The registry keeps to the book of live nodes as long as a node that is added gets a sequence no smaller than those of
the nodes that are live, and an answer that changed is a wake sent or owed.
-/
namespace OpenLogi
namespace Registry

open Hid Lib

variable {N C : Type} [DecidableEq N] [DecidableEq C]

/-- An operation under the write lock: whether it changed anything, and the registry after. -/
def NodeRegistry.apply (r : NodeRegistry N C) : Op N C → Bool × NodeRegistry N C
  | .replaceNode node routes channel => r.replaceNode node routes channel
  | .removeNode node => r.removeNode node
  | .retainNodes nodes => r.retainNodes nodes

structure Sys (N C : Type) where
  registry : NodeRegistry N C
  book : Book N C
  version : Nat
  owed : Nat

inductive Event (N C : Type) where
  | op (op : Op N C)
  | notifyChange
  deriving DecidableEq

/-- A wake is sent only by an operation that changed something. -/
def step (s : Sys N C) : Event N C → Option (Sys N C)
  | .op op =>
    let applied := s.registry.apply op
    some { s with
      registry := applied.2
      book := s.book.after op
      owed := if applied.1 then s.owed + 1 else s.owed }
  | .notifyChange => if 0 < s.owed then some { s with version := s.version + 1, owed := s.owed - 1 } else none

/-- No node was published yet. -/
def start : Sys N C := ⟨.default, .empty, 0, 0⟩

/-- A node that is added gets a sequence no smaller than those of the live nodes: the counter did not wrap past one. -/
def InOrder (s : Sys N C) : Event N C → Prop
  | .op (.replaceNode node _ _) => (∀ p ∈ s.registry.publications, p.node ≠ node) →
    ∀ p ∈ s.registry.publications, p.sequence ≤ s.registry.nextSequence
  | _ => True

/-! ### What an operation does -/

omit [DecidableEq C] in
theorem updateFirst_eq_map {node : N} {f : Publication N C → Publication N C} :
    ∀ {l : List (Publication N C)}, (l.Pairwise fun p q => p.node ≠ q.node) →
      NodeRegistry.updateFirst (fun p => decide (p.node = node)) f l = l.map fun p => if p.node = node then f p else p
  | [], _ => rfl
  | p :: l, h => by
    obtain ⟨hp, hl⟩ := List.pairwise_cons.1 h
    by_cases he : p.node = node
    · have hrest : l.map (fun p => if p.node = node then f p else p) = l := by
        rw [List.map_congr_left fun q hq => if_neg fun hn => hp q hq (he.trans hn.symm), List.map_id']
      simp only [NodeRegistry.updateFirst, he, decide_true, if_true, List.map_cons, hrest]
    · simp only [NodeRegistry.updateFirst, he, decide_false, Bool.false_eq_true, if_false, List.map_cons,
        updateFirst_eq_map hl]

/-- **An operation that reports no change made none.** -/
theorem apply_unchanged {r : NodeRegistry N C} {op : Op N C} (h : (r.apply op).1 = false) : (r.apply op).2 = r := by
  have hfilter : ∀ p : Publication N C → Bool,
      ((r.publications.filter p).length != r.publications.length) = false →
      ({ r with publications := r.publications.filter p } : NodeRegistry N C) = r := by
    intro p hp
    have hlen : (r.publications.filter p).length = r.publications.length := by simpa using hp
    rw [List.filter_eq_self.2 (List.length_filter_eq_length_iff.1 hlen)]
  cases op with
  | replaceNode node routes channel =>
    simp only [NodeRegistry.apply, NodeRegistry.replaceNode] at h ⊢
    split
    · rename_i p hp
      simp only [hp] at h
      split at h
      · rename_i hsame
        rw [if_pos hsame]
      · cases h
    · rename_i hp
      simp only [hp] at h
      cases h
  | removeNode node => exact hfilter _ h
  | retainNodes nodes => exact hfilter _ h

section Keep

variable {r : NodeRegistry N C} {b : Book N C}

omit [DecidableEq N] [DecidableEq C] in
/-- The publications left by a filter, for the nodes the book keeps. -/
theorem Refines.filter (h : Refines r b) {p : N → Prop} [DecidablePred p] {live : N → Option (Live C)}
    (hlive : ∀ node, live node = if p node then b.live node else none) :
    Refines ⟨r.publications.filter fun q => decide (p q.node), r.nextSequence⟩ ⟨b.clock + 1, live⟩ where
  live node l hl := by
    replace hl : live node = some l := hl
    rw [hlive] at hl
    split at hl
    · rename_i hp
      obtain ⟨q, hq, rfl⟩ := h.live node l hl
      exact ⟨q, List.mem_filter.2 ⟨hq, decide_eq_true hp⟩, rfl⟩
    · cases hl
  published q hq := by
    obtain ⟨hq, hp⟩ := List.mem_filter.1 hq
    obtain ⟨l, hl, hroutes, hchannel, hsince⟩ := h.published q hq
    refine ⟨l, ?_, hroutes, hchannel, Nat.lt_succ_of_lt hsince⟩
    simp only [hlive, if_pos (of_decide_eq_true hp), hl]
  age := by
    refine (h.age.filter _).imp fun hage l l' hl hl' => ?_
    simp only [hlive] at hl hl'
    split at hl <;> split at hl'
    · exact hage l l' hl hl'
    all_goals first | cases hl | cases hl'
  sorted := h.sorted.filter _

/-- A node that is published again keeps its place and its age. -/
theorem Refines.replace (h : Refines r b) {node : N} {routes : List DeviceRoute} {channel : C} {p : Publication N C}
    (hp : p ∈ r.publications) (hnode : p.node = node) :
    Refines (r.replaceNode node routes channel).2 (b.after (.replaceNode node routes channel)) := by
  subst hnode
  obtain ⟨lp, hlp, hroutes, hchannel, hsince⟩ := h.published p hp
  have hfind : r.publications.find? (fun q => q.node = p.node) = some p := by
    cases hf : r.publications.find? (fun q => q.node = p.node) with
    | none => exact absurd (decide_eq_true rfl) (List.find?_eq_none.1 hf p hp)
    | some q =>
      have hq := List.find?_some hf
      rw [h.eq_of_node (List.mem_of_find?_eq_some hf) hp (of_decide_eq_true hq)]
  have hlive : (b.after (.replaceNode p.node routes channel)).live =
      Function.update b.live p.node (some ⟨lp.since, routes, channel⟩) := by
    simp only [Book.after, hlp, Option.map_some, Option.getD_some]
  -- The book's age of a node does not change.
  have hage : ∀ node l, (b.after (.replaceNode p.node routes channel)).live node = some l →
      ∃ l', b.live node = some l' ∧ l'.since = l.since := by
    intro node l hl
    rw [hlive] at hl
    by_cases he : node = p.node
    · subst he
      rw [Function.update_self] at hl
      cases hl
      exact ⟨lp, hlp, rfl⟩
    · rw [Function.update_of_ne he] at hl
      exact ⟨l, hl, rfl⟩
  have hother : ∀ q ∈ r.publications, q.node ≠ p.node →
      ∃ l, (b.after (.replaceNode p.node routes channel)).live q.node = some l ∧
        (∀ route, route ∈ q.routes ↔ route ∈ l.routes) ∧ q.channel = l.channel ∧ l.since < b.clock + 1 := by
    intro q hq hne
    obtain ⟨l, hl, h1, h2, h3⟩ := h.published q hq
    exact ⟨l, by rw [hlive, Function.update_of_ne hne, hl], h1, h2, Nat.lt_succ_of_lt h3⟩
  have hpublished : ∀ node l, (b.after (.replaceNode p.node routes channel)).live node = some l →
      ∃ q ∈ r.publications, q.node = node := by
    intro node l hl
    obtain ⟨l', hl', -⟩ := hage node l hl
    exact h.live node l' hl'
  have hpair : ∀ q q' : Publication N C,
      (∀ l l', b.live q.node = some l → b.live q'.node = some l' → l.since < l'.since) →
      ∀ l l', (b.after (.replaceNode p.node routes channel)).live q.node = some l →
        (b.after (.replaceNode p.node routes channel)).live q'.node = some l' → l.since < l'.since := by
    intro q q' hqq l l' hl hl'
    obtain ⟨m, hm, he⟩ := hage _ l hl
    obtain ⟨m', hm', he'⟩ := hage _ l' hl'
    have := hqq m m' hm hm'
    omega
  simp only [NodeRegistry.replaceNode, hfind]
  split
  · rename_i hsame
    simp only [Bool.and_eq_true, List.all_eq_true, List.contains_iff_mem, decide_eq_true_eq] at hsame
    obtain ⟨⟨hle, hge⟩, hc⟩ := hsame
    refine ⟨hpublished, fun q hq => ?_, h.age.imp fun {q q'} => hpair q q', h.sorted⟩
    by_cases he : q.node = p.node
    · cases h.eq_of_node hq hp he
      exact ⟨⟨lp.since, routes, channel⟩, by rw [hlive, Function.update_self], fun route => ⟨hle route, hge route⟩, hc,
        Nat.lt_succ_of_lt hsince⟩
    · exact hother q hq he
  · rw [updateFirst_eq_map h.distinct]
    have hsame : ∀ q : Publication N C,
        (if q.node = p.node then { q with routes := routes, channel := channel } else q).node = q.node ∧
        (if q.node = p.node then { q with routes := routes, channel := channel } else q).sequence = q.sequence := by
      intro q
      split <;> exact ⟨rfl, rfl⟩
    refine ⟨fun node l hl => ?_, fun q' hq' => ?_, ?_, ?_⟩
    · obtain ⟨q, hq, rfl⟩ := hpublished node l hl
      exact ⟨_, List.mem_map_of_mem hq, (hsame q).1⟩
    · obtain ⟨q, hq, rfl⟩ := List.mem_map.1 hq'
      by_cases he : q.node = p.node
      · rw [if_pos he]
        refine ⟨⟨lp.since, routes, channel⟩, ?_, fun _ => Iff.rfl, rfl, Nat.lt_succ_of_lt hsince⟩
        rw [hlive]
        exact he ▸ Function.update_self ..
      · rw [if_neg he]
        exact hother q hq he
    · refine List.pairwise_map.2 (h.age.imp fun {q q'} hqq => ?_)
      rw [(hsame q).1, (hsame q').1]
      exact hpair q q' hqq
    · refine List.pairwise_map.2 (h.sorted.imp fun {q q'} hqq => ?_)
      rw [(hsame q).2, (hsame q').2]
      exact hqq

/-- A node that is added is the youngest. -/
theorem Refines.add (h : Refines r b) {node : N} {routes : List DeviceRoute} {channel : C}
    (hnew : ∀ p ∈ r.publications, p.node ≠ node) (hseq : ∀ p ∈ r.publications, p.sequence ≤ r.nextSequence) :
    Refines (r.replaceNode node routes channel).2 (b.after (.replaceNode node routes channel)) := by
  have hfind : r.publications.find? (fun q => q.node = node) = none :=
    List.find?_eq_none.2 fun p hp => by simpa using hnew p hp
  have hnone : b.live node = none := by
    cases hl : b.live node with
    | none => rfl
    | some l =>
      obtain ⟨p, hp, he⟩ := h.live node l hl
      exact absurd he (hnew p hp)
  have hself : (b.after (.replaceNode node routes channel)).live node = some ⟨b.clock, routes, channel⟩ := by
    simp only [Book.after, hnone, Option.map_none, Option.getD_none, Function.update_self]
  have hother : ∀ {n}, n ≠ node → (b.after (.replaceNode node routes channel)).live n = b.live n :=
    fun hne => Function.update_of_ne hne _ _
  simp only [NodeRegistry.replaceNode, hfind]
  refine ⟨fun n l hl => ?_, fun p hp => ?_, ?_, ?_⟩
  · by_cases he : n = node
    · exact ⟨⟨node, r.nextSequence, routes, channel⟩, List.mem_append_right _ (List.mem_singleton.2 rfl), he.symm⟩
    · rw [hother he] at hl
      obtain ⟨p, hp, rfl⟩ := h.live n l hl
      exact ⟨p, List.mem_append_left _ hp, rfl⟩
  · rcases List.mem_append.1 hp with hp | hp
    · obtain ⟨l, hl, h1, h2, h3⟩ := h.published p hp
      exact ⟨l, (hother (hnew p hp)).trans hl, h1, h2, Nat.lt_succ_of_lt h3⟩
    · cases List.mem_singleton.1 hp
      exact ⟨_, hself, fun _ => Iff.rfl, rfl, Nat.lt_succ_self _⟩
  · refine List.pairwise_append.2 ⟨?_, List.pairwise_singleton _ _, fun p hp q hq l l' hl hl' => ?_⟩
    · refine h.age.imp_of_mem fun {p q} hp hq hage l l' hl hl' => ?_
      rw [hother (hnew p hp)] at hl
      rw [hother (hnew q hq)] at hl'
      exact hage l l' hl hl'
    · cases List.mem_singleton.1 hq
      rw [hother (hnew p hp)] at hl
      cases hself.symm.trans hl'
      obtain ⟨m, hm, -, -, hlt⟩ := h.published p hp
      cases hl.symm.trans hm
      exact hlt
  · exact List.pairwise_append.2 ⟨h.sorted, List.pairwise_singleton _ _, fun p hp q hq => by
      cases List.mem_singleton.1 hq
      exact hseq p hp⟩

end Keep

/-- **What one event keeps**: the registry says what the book says. -/
theorem refines_step {s s' : Sys N C} {e : Event N C} (h : Refines s.registry s.book) (hG : InOrder s e)
    (hs : step s e = some s') : Refines s'.registry s'.book := by
  cases e with
  | notifyChange =>
    simp only [step] at hs
    split at hs <;> cases hs
    exact h
  | op op =>
    cases hs
    cases op with
    | replaceNode node routes channel =>
      by_cases hnew : ∀ p ∈ s.registry.publications, p.node ≠ node
      · exact h.add hnew (hG hnew)
      · simp only [not_forall, Classical.not_not] at hnew
        obtain ⟨p, hp, hnode⟩ := hnew
        exact h.replace hp hnode
    | removeNode node =>
      exact h.filter (p := fun n => n ≠ node) fun n => by
        by_cases he : n = node
        · rw [he, if_neg (not_not_intro rfl)]
          exact Function.update_self ..
        · rw [if_pos he]
          exact Function.update_of_ne he _ _
    | retainNodes nodes => exact h.filter (p := fun n => n ∈ nodes) fun n => rfl

omit [DecidableEq N] [DecidableEq C] in
theorem refines_start : Refines (start : Sys N C).registry start.book where
  live _ _ hl := by cases hl
  published _ hp := by cases hp
  age := List.Pairwise.nil
  sorted := List.Pairwise.nil

/-- One event sends or owes a wake, or leaves the registry as it is. -/
theorem wakes_step {s s' : Sys N C} {e : Event N C} (h : step s e = some s') :
    s.version + s.owed ≤ s'.version + s'.owed ∧
      (s.version + s.owed = s'.version + s'.owed → s'.registry = s.registry) := by
  cases e with
  | notifyChange =>
    simp only [step] at h
    split at h <;> cases h
    rename_i hpos
    refine ⟨?_, fun _ => rfl⟩
    simp only
    omega
  | op op =>
    simp only [step, Option.some.injEq] at h
    subst h
    cases hc : (s.registry.apply op).1 with
    | false => exact ⟨by simp, fun _ => apply_unchanged hc⟩
    | true =>
      simp only [if_true]
      exact ⟨by omega, fun he => by omega⟩

/-- **A change is a wake sent or owed**: wakes only grow, and where they do not the registry is the same. -/
theorem wakes_run : ∀ {es : List (Event N C)} {s s' : Sys N C}, run step s es = some s' →
    s.version + s.owed ≤ s'.version + s'.owed ∧
      (s.version + s.owed = s'.version + s'.owed → s'.registry = s.registry)
  | [], s, s', h => by
    cases h
    exact ⟨Nat.le_refl _, fun _ => rfl⟩
  | e :: es, s, s', h => by
    obtain ⟨t, ht, hr⟩ := run_cons h
    obtain ⟨hle, hsame⟩ := wakes_run hr
    obtain ⟨hstep, hkeep⟩ := wakes_step ht
    exact ⟨by omega, fun he => (hsame (by omega)).trans (hkeep (by omega))⟩

end Registry
end OpenLogi
