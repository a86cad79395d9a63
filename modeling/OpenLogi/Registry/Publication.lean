import OpenLogi.Registry.Wakes
/-!
# Publication — the verdict on a channel a session took earlier

`publication` puts its verdict together from three reads, each under its own lock, and inventory may work between them.
A verdict is right when it is true at some moment between the first read and the last.
-/
namespace OpenLogi
namespace Registry

open Hid Lib

variable {N C : Type} [DecidableEq N] [DecidableEq C]

inductive PublicationState where
  | current
  | slotOffline
  | retired
  deriving DecidableEq

def isReceiver : DeviceRoute → Bool
  | .bolt .. | .unifying .. => true
  | .direct .. | .rawHid .. => false

/-- The verdict from the registry as each of the three reads finds it. -/
def publication (first second third : NodeRegistry N C) (shared : SharedChannel C) : PublicationState :=
  if first.isCurrent shared then .current
  else if isReceiver shared.route && (second.lookup shared.route).isNone && third.containsChannel shared.channel then
    .slotOffline
  else .retired

/-- The verdict on one state of the registry. -/
def truth (r : NodeRegistry N C) (shared : SharedChannel C) : PublicationState := publication r r r shared

/-- What inventory does while the call runs: a verdict that needs no further read ends the call. -/
def during (s t : Sys N C) (shared : SharedChannel C) (es fs : List (Event N C)) : List (Event N C) :=
  if s.registry.isCurrent shared || !isReceiver shared.route then []
  else if (t.registry.lookup shared.route).isSome then es
  else es ++ fs

/-- The verdict is true in some state reached by a part of the events. -/
def TrueSometime (s : Sys N C) (es : List (Event N C)) (shared : SharedChannel C) (verdict : PublicationState) : Prop :=
  ∃ pre m, pre <+: es ∧ run step s pre = some m ∧ truth m.registry shared = verdict

/-- The slot is offline at the first read and back at the second, and at no moment retired. -/
def Returned (s t : Sys N C) (shared : SharedChannel C) (es : List (Event N C)) : Prop :=
  truth s.registry shared = .slotOffline ∧ truth t.registry shared = .current ∧ ¬ TrueSometime s es shared .retired

/-- The connection is not published at the second read, published at the third with the route won, and the slot at no
moment offline. -/
def Reappeared (s t u : Sys N C) (shared : SharedChannel C) (es : List (Event N C)) : Prop :=
  isReceiver shared.route = true ∧ truth s.registry shared ≠ .current ∧ t.registry.lookup shared.route = none ∧
    t.registry.containsChannel shared.channel = false ∧ u.registry.containsChannel shared.channel = true ∧
    u.registry.lookup shared.route ≠ none ∧ ¬ TrueSometime s es shared .slotOffline

/-! ### The three verdicts on one state -/

variable {r : NodeRegistry N C} {shared : SharedChannel C} {es : List (Event N C)}

omit [DecidableEq N] in
theorem truth_current :
    truth r shared = .current ↔ r.isCurrent shared = true := by
  unfold truth publication
  cases r.isCurrent shared with
  | true => simp
  | false =>
    simp only [Bool.false_eq_true, if_false, iff_false]
    split <;> exact fun h => (by cases h)

omit [DecidableEq N] in
theorem truth_slotOffline :
    truth r shared = .slotOffline ↔ isReceiver shared.route = true ∧ r.lookup shared.route = none ∧
      r.containsChannel shared.channel = true := by
  unfold truth publication
  cases hc : r.isCurrent shared with
  | true =>
    have hl := (r.isCurrent_iff shared).1 hc
    simp [hl]
  | false =>
    simp only [Bool.false_eq_true, if_false, Bool.and_eq_true, Option.isNone_iff_eq_none, and_assoc]
    split
    · rename_i h
      exact iff_of_true rfl h
    · rename_i h
      exact iff_of_false (fun h => (by cases h)) h

omit [DecidableEq N] in
theorem truth_retired :
    truth r shared = .retired ↔ truth r shared ≠ .current ∧ truth r shared ≠ .slotOffline := by
  cases truth r shared <;> simp

theorem trueSometime_start {s : Sys N C} {v : PublicationState} (h : truth s.registry shared = v) :
    TrueSometime s es shared v := ⟨[], s, List.nil_prefix, rfl, h⟩

theorem trueSometime_end {s t : Sys N C} (fs : List (Event N C)) {v : PublicationState} (ht : run step s es = some t)
    (h : truth t.registry shared = v) :
    TrueSometime s (es ++ fs) shared v :=
  ⟨es, t, List.prefix_append es fs, ht, h⟩

/-- **A verdict is true at some moment of its call** unless the slot returned or the connection reappeared between the
reads. -/
theorem publication_true_iff {s t u : Sys N C} {fs : List (Event N C)} (ht : run step s es = some t)
    (hu : run step t fs = some u) (shared : SharedChannel C) :
    TrueSometime s (during s t shared es fs) shared
        (publication s.registry t.registry u.registry shared) ↔
      ¬ Returned s t shared es ∧ ¬ Reappeared s t u shared (es ++ fs) := by
  by_cases hc : s.registry.isCurrent shared = true
  · have hnow : truth s.registry shared = .current := truth_current.2 hc
    refine iff_of_true (trueSometime_start ?_) ⟨fun h => ?_, fun h => h.2.1 hnow⟩
    · rw [hnow, publication, if_pos hc]
    · have hoff := h.1
      rw [hnow] at hoff
      cases hoff
  have hnow : truth s.registry shared ≠ .current := fun h => hc (truth_current.1 h)
  have hc' : s.registry.isCurrent shared = false := by simpa using hc
  by_cases hr : isReceiver shared.route = true
  · cases hl : t.registry.lookup shared.route with
    | some c =>
      have hv : publication s.registry t.registry u.registry shared = .retired := by
        simp [publication, hc', hl]
      have hd : during s t shared es fs = es := by simp [during, hc', hr, hl]
      have hoff : truth t.registry shared ≠ .slotOffline := fun h => by
        rw [(truth_slotOffline.1 h).2.1] at hl
        cases hl
      rw [hv, hd]
      constructor
      · exact fun h => ⟨fun hret => hret.2.2 h, fun hre => by rw [hre.2.2.1] at hl; cases hl⟩
      · rintro ⟨hret, -⟩
        refine Classical.byContradiction fun hnone => hret ⟨?_, ?_, hnone⟩
        · exact Classical.byContradiction fun h =>
            hnone (trueSometime_start (truth_retired.2 ⟨hnow, h⟩))
        · refine Classical.byContradiction fun h => hnone ?_
          have := trueSometime_end [] ht (truth_retired.2 ⟨h, hoff⟩)
          rwa [List.append_nil] at this
    | none =>
      have hd : during s t shared es fs = es ++ fs := by simp [during, hc', hr, hl]
      have hcur : ∀ {m : Sys N C}, m.registry.lookup shared.route = none → truth m.registry shared ≠ .current :=
        fun hm h => by
          have := (NodeRegistry.isCurrent_iff _ _).1 (truth_current.1 h)
          rw [hm] at this
          cases this
      have hret : ¬ Returned s t shared es := fun h => hcur hl h.2.1
      have hend : run step s (es ++ fs) = some u := by
        rw [run_append, ht, Option.bind_some, hu]
      rw [hd]
      cases hx : u.registry.containsChannel shared.channel with
      | false =>
        have hv : publication s.registry t.registry u.registry shared = .retired := by
          simp [publication, hc', hx]
        have hoff : truth u.registry shared ≠ .slotOffline := fun h => by
          rw [(truth_slotOffline.1 h).2.2] at hx
          cases hx
        have hgone : truth u.registry shared ≠ .current := fun h => by
          have := NodeRegistry.contains_of_lookup ((NodeRegistry.isCurrent_iff _ _).1 (truth_current.1 h))
          rw [hx] at this
          cases this
        refine iff_of_true ?_ ⟨hret, fun h => by rw [h.2.2.2.2.1] at hx; cases hx⟩
        rw [hv]
        have := trueSometime_end [] hend (truth_retired.2 ⟨hgone, hoff⟩)
        rwa [List.append_nil] at this
      | true =>
        have hv : publication s.registry t.registry u.registry shared = .slotOffline := by
          simp [publication, hc', hr, hl, hx]
        rw [hv]
        constructor
        · exact fun h => ⟨hret, fun hre => hre.2.2.2.2.2.2 h⟩
        · rintro ⟨-, hre⟩
          refine Classical.byContradiction fun hnone => hre ⟨hr, hnow, hl, ?_, hx, fun hlu => ?_, hnone⟩
          · refine Bool.eq_false_iff.2 fun h => hnone ?_
            exact trueSometime_end fs ht (truth_slotOffline.2 ⟨hr, hl, h⟩)
          · have := trueSometime_end [] hend (truth_slotOffline.2 ⟨hr, hlu, hx⟩)
            rw [List.append_nil] at this
            exact hnone this
  · have hv : publication s.registry t.registry u.registry shared = .retired := by simp [publication, hc', hr]
    have hoff : truth s.registry shared ≠ .slotOffline := fun h => hr (truth_slotOffline.1 h).1
    rw [hv]
    exact iff_of_true (trueSometime_start (truth_retired.2 ⟨hnow, hoff⟩)) ⟨fun h => hoff h.1, fun h => hr h.1⟩

/-- Some answer of the registry changed. -/
def AnswersDiffer (r r' : NodeRegistry N C) : Prop :=
  (∃ route, r'.lookup route ≠ r.lookup route) ∨ (∃ shared, r'.isCurrent shared ≠ r.isCurrent shared) ∨
    ∃ channel, r'.containsChannel channel ≠ r.containsChannel channel

/-- **The registry elects the oldest live node of a route, wakes whoever waits, and gives a right verdict**: the first
as long as the sequence counter did not wrap past a live node, the last as long as no slot returned and no
connection reappeared between the reads. -/
theorem registry_elects {es : List (Event N C)} {s : Sys N C} (hrun : run step start es = some s)
    (hG : Along step InOrder start es) :
    (s.registry.publications.Pairwise fun p q => p.node ≠ q.node) ∧
    (∀ route c, s.registry.lookup route = some c ↔ s.book.Elects route c) ∧
    (∀ shared, s.registry.isCurrent shared = true ↔ s.registry.lookup shared.route = some shared.channel) ∧
    (∀ fs t, run step s fs = some t → AnswersDiffer s.registry t.registry →
      s.version + s.owed < t.version + t.owed) ∧
    ∀ shared fs gs t u, run step s fs = some t → run step t gs = some u →
      (TrueSometime s (during s t shared fs gs) shared (publication s.registry t.registry u.registry shared) ↔
        ¬ Returned s t shared fs ∧ ¬ Reappeared s t u shared (fs ++ gs)) := by
  have href : Refines s.registry s.book :=
    along_inv (fun s : Sys N C => Refines s.registry s.book) InOrder (fun s e s' h hG hs => refines_step h hG hs) es
      start s refines_start hG hrun
  refine ⟨href.distinct, href.lookup_iff, s.registry.isCurrent_iff, fun fs t ht hd => ?_,
    fun shared fs gs t u ht hu => publication_true_iff ht hu shared⟩
  obtain ⟨hle, hsame⟩ := wakes_run ht
  refine Nat.lt_of_le_of_ne hle fun he => ?_
  rw [hsame he] at hd
  rcases hd with ⟨_, h⟩ | ⟨_, h⟩ | ⟨_, h⟩ <;> exact h rfl

/-! ### One receiver with one slot -/

def slotRoute : DeviceRoute := .bolt "AABB" 2

/-- A session's channel to the slot, on the receiver's connection. -/
def slotChannel : SharedChannel String := ⟨"receiver", slotRoute⟩

/-- The receiver published with its slot, then the slot gone offline. -/
def withdrawn : List (Event Nat String) :=
  [.op (.replaceNode 1 [slotRoute] "receiver"), .notifyChange, .op (.replaceNode 1 [] "receiver"), .notifyChange]

/-- The slot back on the same connection. -/
def slotReturns : List (Event Nat String) := [.op (.replaceNode 1 [slotRoute] "receiver")]

instance decidableInOrder (s : Sys N C) : (e : Event N C) → Decidable (InOrder s e)
  | .op (.replaceNode node _ _) =>
    inferInstanceAs (Decidable ((∀ p ∈ s.registry.publications, p.node ≠ node) →
      ∀ p ∈ s.registry.publications, p.sequence ≤ s.registry.nextSequence))
  | .op (.removeNode _) | .op (.retainNodes _) | .notifyChange => isTrue trivial

/-- Two identical devices on one route; the older one is reopened. -/
def identical : List (Event Nat String) :=
  [.op (.replaceNode 1 [.direct 0x046d 0xb35b] "a"), .notifyChange, .op (.replaceNode 2 [.direct 0x046d 0xb35b] "b"),
    .op (.replaceNode 1 [.direct 0x046d 0xb35b] "c"), .notifyChange]

/-- The older device keeps the route, and its removal is a wake. -/
theorem registry_elects_identical : ∃ s, run step start identical = some s ∧
    s.book.Elects (.direct 0x046d 0xb35b) "c" ∧
      ∀ t, run step s [.op (.removeNode 1)] = some t → s.version + s.owed < t.version + t.owed := by
  refine ⟨_, rfl, ?_⟩
  obtain ⟨-, helects, -, hwakes, -⟩ := @registry_elects Nat String _ _ identical _ rfl (by decide +kernel)
  refine ⟨(helects _ _).1 (by decide +kernel), fun t ht => ?_⟩
  refine hwakes [.op (.removeNode 1)] t ht (.inl ⟨.direct 0x046d 0xb35b, ?_⟩)
  cases ht
  decide +kernel

/-- **A slot that returns between the first read and the second is reported retired**, although it was offline and then
current, and retired at no moment. -/
theorem returned_slot_is_retired : ∃ s t : Sys Nat String,
    run step start withdrawn = some s ∧ run step s slotReturns = some t ∧
      publication s.registry t.registry t.registry slotChannel = .retired ∧
      truth s.registry slotChannel = .slotOffline ∧ truth t.registry slotChannel = .current ∧
      EveryState step (fun m => truth m.registry slotChannel ≠ .retired) s (during s t slotChannel slotReturns []) :=
  ⟨_, _, rfl, rfl, by decide +kernel, by decide +kernel, by decide +kernel, by decide +kernel⟩

end Registry
end OpenLogi
