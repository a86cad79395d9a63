import Mathlib.Data.List.Nodup
import OpenLogi.Hid.Route
import OpenLogi.Lib.Least
import OpenLogi.Lib.Run
/-!
# Election — which channel a route is reached by

The inventory publishes a channel and its routes for each node.  Identical direct devices publish one route: the node
that has been live longest wins it.  A channel is its connection, told apart as `Arc::ptr_eq` does.
-/
namespace OpenLogi
namespace Registry

open Hid Lib

variable {N C : Type}

structure Publication (N C : Type) where
  node : N
  sequence : Nat
  routes : List DeviceRoute
  channel : C
  deriving DecidableEq

structure NodeRegistry (N C : Type) where
  publications : List (Publication N C)
  nextSequence : Nat
  deriving DecidableEq

structure SharedChannel (C : Type) where
  channel : C
  route : DeviceRoute
  deriving DecidableEq

def SharedChannel.matches (shared : SharedChannel C) (route : DeviceRoute) : Bool := shared.route = route

namespace NodeRegistry

def default : NodeRegistry N C := ⟨[], 0⟩

section Operations

variable [DecidableEq N] [DecidableEq C]

/-- The first publication that satisfies `p`, changed. -/
def updateFirst (p : Publication N C → Bool) (f : Publication N C → Publication N C) :
    List (Publication N C) → List (Publication N C)
  | [] => []
  | a :: l => if p a then f a :: l else a :: updateFirst p f l

/-- Whether anything changed, and the registry after.  A node published before keeps its sequence. -/
def replaceNode (r : NodeRegistry N C) (node : N) (routes : List DeviceRoute) (channel : C) : Bool × NodeRegistry N C :=
  match r.publications.find? fun publication => publication.node = node with
  | some publication =>
    let sameRoutes := publication.routes.all (routes.contains ·) && routes.all (publication.routes.contains ·)
    if sameRoutes && decide (publication.channel = channel) then (false, r)
    else
      (true, { r with
        publications := updateFirst (fun publication => publication.node = node)
          (fun publication => { publication with routes := routes, channel := channel }) r.publications })
  | none =>
    (true,
      { publications := r.publications ++ [⟨node, r.nextSequence, routes, channel⟩]
        nextSequence := (r.nextSequence + 1) % 18446744073709551616 })

def removeNode (r : NodeRegistry N C) (node : N) : Bool × NodeRegistry N C :=
  let publications := r.publications.filter fun publication => publication.node ≠ node
  (publications.length != r.publications.length, { r with publications := publications })

def retainNodes (r : NodeRegistry N C) (nodes : List N) : Bool × NodeRegistry N C :=
  let publications := r.publications.filter fun publication => publication.node ∈ nodes
  (publications.length != r.publications.length, { r with publications := publications })

end Operations

/-- The publication that wins a route, and its place. -/
def winner (r : NodeRegistry N C) (route : DeviceRoute) : Option (Publication N C × Nat) :=
  minByKey (fun p => p.1.sequence) (r.publications.zipIdx.filter fun p => p.1.routes.contains route)

def lookup (r : NodeRegistry N C) (route : DeviceRoute) : Option C := (r.winner route).map fun p => p.1.channel

/-- Some publication wins a route that satisfies the predicate with its channel.  The winner is told by its place, as
`std::ptr::eq` tells it. -/
def anyCurrent (r : NodeRegistry N C) (predicate : DeviceRoute → C → Bool) : Bool :=
  r.publications.zipIdx.any fun p =>
    p.1.routes.any fun route =>
      predicate route p.1.channel && (r.winner route).any fun winner => winner.2 == p.2

variable [DecidableEq C]

def containsChannel (r : NodeRegistry N C) (channel : C) : Bool :=
  r.publications.any fun publication => publication.channel = channel

def isCurrent (r : NodeRegistry N C) (shared : SharedChannel C) : Bool :=
  r.anyCurrent fun route channel => shared.matches route && decide (channel = shared.channel)

end NodeRegistry

/-! ### What the election is for -/

/-- A live node: since when, and what it publishes. -/
structure Live (C : Type) where
  since : Nat
  routes : List DeviceRoute
  channel : C

/-- The nodes that are live, by what inventory did so far. -/
structure Book (N C : Type) where
  clock : Nat
  live : N → Option (Live C)

inductive Op (N C : Type) where
  | replaceNode (node : N) (routes : List DeviceRoute) (channel : C)
  | removeNode (node : N)
  | retainNodes (nodes : List N)
  deriving DecidableEq

namespace Book

variable [DecidableEq N]

def empty : Book N C := ⟨0, fun _ => none⟩

/-- A node that is live keeps its age when its routes or channel are replaced. -/
def after (b : Book N C) : Op N C → Book N C
  | .replaceNode node routes channel =>
    { clock := b.clock + 1
      live := Function.update b.live node
        (some ⟨((b.live node).map (·.since)).getD b.clock, routes, channel⟩) }
  | .removeNode node => { clock := b.clock + 1, live := Function.update b.live node none }
  | .retainNodes nodes => { clock := b.clock + 1, live := fun node => if node ∈ nodes then b.live node else none }

/-- The channel of the node that has been live longest among those that publish the route. -/
def Elects (b : Book N C) (route : DeviceRoute) (channel : C) : Prop :=
  ∃ node l, b.live node = some l ∧ route ∈ l.routes ∧ l.channel = channel ∧
    ∀ other l', b.live other = some l' → route ∈ l'.routes → other = node ∨ l.since < l'.since

end Book

/-! ### The winner in a registry sorted by sequence -/

variable {l : List (Publication N C)} {p : Publication N C} {r : NodeRegistry N C} {b : Book N C}

theorem mem_zipIdx_place {q : Publication N C} {i : Nat} (hp : (p, i) ∈ l.zipIdx) (hq : (q, i) ∈ l.zipIdx) : p = q := by
  have h1 := List.mem_zipIdx_iff_getElem?.1 hp
  have h2 := List.mem_zipIdx_iff_getElem?.1 hq
  exact Option.some.inj (h1.symm.trans h2)

theorem exists_place (h : p ∈ l) : ∃ i, (p, i) ∈ l.zipIdx := by
  obtain ⟨i, hi⟩ := List.mem_iff_getElem?.1 h
  exact ⟨i, List.mem_zipIdx_iff_getElem?.2 hi⟩

theorem mem_of_place {i : Nat} (h : (p, i) ∈ l.zipIdx) : p ∈ l :=
  List.mem_of_getElem? (List.mem_zipIdx_iff_getElem?.1 h)

theorem pairwise_zipIdx {R : Publication N C → Publication N C → Prop} (h : l.Pairwise R) :
    l.zipIdx.Pairwise fun p q => R p.1 q.1 := by
  rw [← List.zipIdx_map_fst 0 l] at h
  exact List.pairwise_map.1 h

namespace NodeRegistry

/-- The publications of a route, with their places. -/
def publishing (r : NodeRegistry N C) (route : DeviceRoute) : List (Publication N C × Nat) :=
  r.publications.zipIdx.filter fun p => p.1.routes.contains route

variable {r : NodeRegistry N C} {route : DeviceRoute}

theorem mem_publishing {p : Publication N C × Nat} :
    p ∈ r.publishing route ↔ p ∈ r.publications.zipIdx ∧ route ∈ p.1.routes := by
  rw [publishing, List.mem_filter, List.contains_iff_mem]

theorem mem_of_winner {p : Publication N C × Nat} (h : r.winner route = some p) :
    p ∈ r.publications.zipIdx ∧ route ∈ p.1.routes :=
  mem_publishing.1 (mem_of_minByKey h)

theorem winner_of_sorted (h : r.publications.Pairwise fun p q => p.sequence ≤ q.sequence) (route : DeviceRoute) :
    r.winner route = (r.publishing route).head? := by
  have hs : (r.publishing route).Pairwise fun p q => p.1.sequence ≤ q.1.sequence := (pairwise_zipIdx h).filter _
  change minByKey _ (r.publishing route) = _
  cases hp : r.publishing route with
  | nil => rfl
  | cons p l =>
    rw [hp] at hs
    exact minByKey_of_sorted hs

variable [DecidableEq C]

/-- **A shared channel is current** exactly when its route is looked up as that same channel. -/
theorem isCurrent_iff (r : NodeRegistry N C) (shared : SharedChannel C) :
    r.isCurrent shared = true ↔ r.lookup shared.route = some shared.channel := by
  simp only [isCurrent, anyCurrent, lookup, List.any_eq_true, Bool.and_eq_true, decide_eq_true_eq,
    SharedChannel.matches, Option.map_eq_some_iff]
  constructor
  · rintro ⟨p, hp, route, hr, ⟨rfl, hc⟩, hw⟩
    obtain ⟨w, hw, hi⟩ := (Option.any_eq_true _ _).1 hw
    have hi : w.2 = p.2 := by simpa using hi
    have hwp : w.1 = p.1 := mem_zipIdx_place (i := p.2) (by rw [← hi]; exact (mem_of_winner hw).1) hp
    exact ⟨w, hw, by rw [hwp, hc]⟩
  · rintro ⟨w, hw, hc⟩
    obtain ⟨hmem, hr⟩ := mem_of_winner hw
    exact ⟨w, hmem, shared.route, hr, ⟨rfl, hc⟩, (Option.any_eq_true _ _).2 ⟨w, hw, by simp⟩⟩

theorem contains_of_lookup {c : C} (h : r.lookup route = some c) :
    r.containsChannel c = true := by
  obtain ⟨w, hw, rfl⟩ := Option.map_eq_some_iff.1 h
  exact List.any_eq_true.2 ⟨w.1, mem_of_place (mem_of_winner hw).1, decide_eq_true rfl⟩

end NodeRegistry

/-- The registry says what the book says, in the order of age. -/
structure Refines (r : NodeRegistry N C) (b : Book N C) : Prop where
  live : ∀ node l, b.live node = some l → ∃ p ∈ r.publications, p.node = node
  published : ∀ p ∈ r.publications, ∃ l, b.live p.node = some l ∧ (∀ route, route ∈ p.routes ↔ route ∈ l.routes) ∧
    p.channel = l.channel ∧ l.since < b.clock
  age : r.publications.Pairwise fun p q =>
    ∀ l l', b.live p.node = some l → b.live q.node = some l' → l.since < l'.since
  sorted : r.publications.Pairwise fun p q => p.sequence ≤ q.sequence

theorem Refines.distinct (h : Refines r b) :
    r.publications.Pairwise fun p q => p.node ≠ q.node := by
  refine h.age.imp_of_mem fun {p q} hp _ hage he => ?_
  obtain ⟨l, hl, -⟩ := h.published p hp
  exact Nat.lt_irrefl _ (hage l l hl (he ▸ hl))

theorem Refines.eq_of_node (h : Refines r b) {q : Publication N C} (hp : p ∈ r.publications) (hq : q ∈ r.publications)
    (he : p.node = q.node) : p = q :=
  List.inj_on_of_nodup_map (List.pairwise_map.2 h.distinct) hp hq he

/-- **A route is looked up as the channel of the node that has been live longest** among those that publish it. -/
theorem Refines.lookup_iff (h : Refines r b) (route : DeviceRoute) (c : C) :
    r.lookup route = some c ↔ b.Elects route c := by
  have hage : (r.publishing route).Pairwise fun p q =>
      ∀ l l', b.live p.1.node = some l → b.live q.1.node = some l' → l.since < l'.since :=
    (pairwise_zipIdx h.age).filter _
  have hmem : ∀ {node l}, b.live node = some l → route ∈ l.routes → ∃ p ∈ r.publishing route, p.1.node = node := by
    intro node l hl hr
    obtain ⟨p, hp, rfl⟩ := h.live node l hl
    obtain ⟨l', hl', hroutes, -⟩ := h.published p hp
    cases hl.symm.trans hl'
    obtain ⟨i, hi⟩ := exists_place hp
    exact ⟨(p, i), NodeRegistry.mem_publishing.2 ⟨hi, (hroutes route).2 hr⟩, rfl⟩
  rw [NodeRegistry.lookup, NodeRegistry.winner_of_sorted h.sorted]
  cases hpub : r.publishing route with
  | nil =>
    simp only [List.head?_nil, Option.map_none, reduceCtorEq, false_iff]
    rintro ⟨node, l, hl, hr, -⟩
    obtain ⟨p, hp, -⟩ := hmem hl hr
    rw [hpub] at hp
    cases hp
  | cons w rest =>
    rw [hpub] at hage
    have hw := NodeRegistry.mem_publishing.1 (hpub ▸ List.mem_cons_self : w ∈ r.publishing route)
    obtain ⟨lw, hlw, hroutes, hchannel, -⟩ := h.published w.1 (mem_of_place hw.1)
    have hfirst : ∀ {node l}, b.live node = some l → route ∈ l.routes → node = w.1.node ∨ lw.since < l.since := by
      intro node l hl hr
      obtain ⟨p, hp, rfl⟩ := hmem hl hr
      rcases List.mem_cons.1 (hpub ▸ hp) with rfl | hp
      · exact .inl rfl
      · exact .inr ((List.pairwise_cons.1 hage).1 p hp lw l hlw hl)
    simp only [List.head?_cons, Option.map_some, Option.some.injEq]
    constructor
    · rintro rfl
      exact ⟨w.1.node, lw, hlw, (hroutes route).1 hw.2, hchannel.symm, fun other l' => hfirst⟩
    · rintro ⟨node, l, hl, hr, rfl, hold⟩
      rcases hfirst hl hr with rfl | hlt
      · cases hl.symm.trans hlw
        exact hchannel
      · rcases hold w.1.node lw hlw ((hroutes route).1 hw.2) with rfl | hlt'
        · cases hl.symm.trans hlw
          exact hchannel
        · omega

end Registry
end OpenLogi
