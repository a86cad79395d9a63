import Mathlib.Data.List.Induction
/-!
# Ledger — a node's last inventory, replayed while its probe fails

`NodeLedger`: the last complete inventory of each node and its failure counts, which are `u8` and saturate.  A failed
probe replays the inventory for `nodeMissGrace` results; a deferred tick, which never asked the node, replays it without
counting.  Nodes and inventories are only compared and copied, so both are type variables.
-/
namespace OpenLogi
namespace Inventory

variable {K I : Type}

def nodeMissGrace : Nat := 3

def channelEvictAfter : Nat := 2

def arrivalReplayEvictAfter : Nat := nodeMissGrace + 1

/-- `u8::saturating_add(1)`. -/
def saturatingSucc (n : Fin 256) : Fin 256 := if h : n.val + 1 < 256 then ⟨n.val + 1, h⟩ else n

structure SettledNode (I : Type) where
  inventory : Option I
  evictChannel : Bool
  deriving DecidableEq

structure FailureCounts where
  probe : Fin 256
  arrivalReplay : Fin 256
  publicationMisses : Fin 256
  deriving DecidableEq

def FailureCounts.zero : FailureCounts := ⟨0, 0, 0⟩

inductive FailureKind where
  | probe
  | arrivalReplay
  deriving DecidableEq

/-- Count a failure of this kind: the kind's own streak, and the counts. -/
def FailureKind.record (kind : FailureKind) (counts : FailureCounts) : Fin 256 × FailureCounts :=
  match kind with
  | .probe => (saturatingSucc counts.probe, { counts with probe := saturatingSucc counts.probe })
  | .arrivalReplay =>
    -- the register that answered proves the transport alive
    (saturatingSucc counts.arrivalReplay,
      { counts with probe := 0, arrivalReplay := saturatingSucc counts.arrivalReplay })

structure NodeLedger (K I : Type) where
  lastGood : K → Option I
  failures : K → Option FailureCounts

def NodeLedger.empty : NodeLedger K I := ⟨fun _ => none, fun _ => none⟩

namespace NodeLedger

/-- `failures.entry(node).or_default()`. -/
def counts (l : NodeLedger K I) (node : K) : FailureCounts := (l.failures node).getD .zero

variable [DecidableEq K]

def resetChannelFailuresAfterOpen (l : NodeLedger K I) (node : K) : NodeLedger K I :=
  match l.failures node with
  | some counts =>
    { l with failures := Function.update l.failures node (some { counts with probe := 0, arrivalReplay := 0 }) }
  | none => l

def settleFailure (l : NodeLedger K I) (node : K) (live : Option I) (evictAfter : Nat) (kind : FailureKind) :
    SettledNode I × NodeLedger K I :=
  let (channelFailures, counts) := kind.record (l.counts node)
  let counts := { counts with publicationMisses := saturatingSucc counts.publicationMisses }
  let failures := Function.update l.failures node (some counts)
  let evictChannel := decide (evictAfter ≤ channelFailures.val)
  if counts.publicationMisses.val ≤ nodeMissGrace then
    match l.lastGood node with
    | some previous => (⟨some previous, evictChannel⟩, { l with failures })
    | none => (⟨live, evictChannel⟩, { l with failures })
  else (⟨live, evictChannel⟩, ⟨Function.update l.lastGood node none, failures⟩)

def settleArrivalReplayFailure (l : NodeLedger K I) (node : K) : SettledNode I × NodeLedger K I :=
  l.settleFailure node none arrivalReplayEvictAfter .arrivalReplay

def settle (l : NodeLedger K I) (node : K) (healthy : Bool) (live : Option I) : SettledNode I × NodeLedger K I :=
  if healthy then
    (⟨live, false⟩, ⟨Function.update l.lastGood node live, Function.update l.failures node none⟩)
  else l.settleFailure node live channelEvictAfter .probe

/-- A tick that never asked the node. -/
def defer (l : NodeLedger K I) (node : K) : SettledNode I := ⟨l.lastGood node, false⟩

def retainNodes (l : NodeLedger K I) (seen : K → Bool) : NodeLedger K I :=
  ⟨fun node => if seen node then l.lastGood node else none, fun node => if seen node then l.failures node else none⟩

end NodeLedger

/-! ## Runs -/

inductive Call (K I : Type) where
  | settle (node : K) (healthy : Bool) (live : Option I)
  | settleArrivalReplayFailure (node : K)
  | defer (node : K)
  | resetChannelFailuresAfterOpen (node : K)
  | retainNodes (seen : K → Bool)

namespace Call

variable [DecidableEq K]

/-- The node answered: its result is authoritative. -/
def isHealthy (node : K) : Call K I → Bool
  | .settle k healthy _ => k = node && healthy
  | _ => false

/-- The node was asked and the result is not authoritative. -/
def isFailure (node : K) : Call K I → Bool
  | .settle k healthy _ => k = node && !healthy
  | .settleArrivalReplayFailure k => k = node
  | _ => false

def isDeferral (node : K) : Call K I → Bool
  | .defer k => k = node
  | _ => false

/-- What the call itself found of the node. -/
def live : Call K I → Option I
  | .settle _ _ live => live
  | _ => none

end Call

namespace NodeLedger

variable [DecidableEq K]

def call (l : NodeLedger K I) : Call K I → Option (SettledNode I) × NodeLedger K I
  | .settle node healthy live => (some (l.settle node healthy live).1, (l.settle node healthy live).2)
  | .settleArrivalReplayFailure node =>
    (some (l.settleArrivalReplayFailure node).1, (l.settleArrivalReplayFailure node).2)
  | .defer node => (some (l.defer node), l)
  | .resetChannelFailuresAfterOpen node => (none, l.resetChannelFailuresAfterOpen node)
  | .retainNodes seen => (none, l.retainNodes seen)

/-- The inventory a call reports. -/
def reported (l : NodeLedger K I) (c : Call K I) : Option I := (l.call c).1.bind (·.inventory)

def after (l : NodeLedger K I) (calls : List (Call K I)) : NodeLedger K I := calls.foldl (fun l c => (l.call c).2) l

def misses (l : NodeLedger K I) (node : K) : Nat := (l.counts node).publicationMisses.val

/-- The remembered snapshot that a call which is no authoritative result of the node reports in place of what it
found. -/
def replayed (l : NodeLedger K I) (node : K) (c : Call K I) : Option I :=
  if c.isDeferral node || c.isFailure node && decide (l.misses node + 1 ≤ nodeMissGrace) then l.lastGood node else none

/-- How many calls of a run that are of the kind `p` are answered with the node's snapshot. -/
def replays (p : Call K I → Bool) (node : K) : NodeLedger K I → List (Call K I) → Nat
  | _, [] => 0
  | l, c :: calls => (if p c && (l.replayed node c).isSome then 1 else 0) + replays p node (l.call c).2 calls

end NodeLedger

/-- The inventory of a node's last healthy result. -/
def lastHealthy [DecidableEq K] (node : K) (calls : List (Call K I)) : Option I :=
  calls.foldl (fun last c => if c.isHealthy node then c.live else last) none

/-! ## One call -/

theorem saturatingSucc_val (n : Fin 256) : (saturatingSucc n).val = min (n.val + 1) 255 := by
  unfold saturatingSucc
  have := n.isLt
  split
  · simp only
    omega
  · omega

theorem record_publicationMisses (kind : FailureKind) (counts : FailureCounts) :
    (kind.record counts).2.publicationMisses = counts.publicationMisses := by
  cases kind <;> rfl

namespace NodeLedger

variable (l : NodeLedger K I)

theorem within_iff (node : K) :
    (saturatingSucc (l.counts node).publicationMisses).val ≤ nodeMissGrace ↔ l.misses node + 1 ≤ nodeMissGrace := by
  rw [saturatingSucc_val]
  show min (l.misses node + 1) 255 ≤ nodeMissGrace ↔ l.misses node + 1 ≤ nodeMissGrace
  unfold nodeMissGrace
  omega

variable [DecidableEq K]

/-- **What a failure does to its node**: the snapshot is reported, and kept, within the grace only. -/
theorem settleFailure_spec (node : K) (live : Option I) (evictAfter : Nat) (kind : FailureKind) :
    let kept := if l.misses node + 1 ≤ nodeMissGrace then l.lastGood node else none
    (l.settleFailure node live evictAfter kind).1.inventory = kept.or live ∧
      (l.settleFailure node live evictAfter kind).2.lastGood = Function.update l.lastGood node kept ∧
      (l.settleFailure node live evictAfter kind).2.misses node = min (l.misses node + 1) 255 ∧
      ∀ k, k ≠ node → (l.settleFailure node live evictAfter kind).2.misses k = l.misses k := by
  have hm : saturatingSucc (kind.record (l.counts node)).2.publicationMisses =
      saturatingSucc (l.counts node).publicationMisses := by rw [record_publicationMisses]
  have hs := saturatingSucc_val (l.counts node).publicationMisses
  unfold settleFailure
  simp only [hm, within_iff]
  by_cases hw : l.misses node + 1 ≤ nodeMissGrace
  · simp only [hw, if_true]
    cases hg : l.lastGood node with
    | some previous =>
      refine ⟨rfl, ?_, ?_, ?_⟩
      · simp [← hg]
      · simpa [misses, counts] using hs
      · intro k hk
        simp [misses, counts, hk]
    | none =>
      refine ⟨rfl, ?_, ?_, ?_⟩
      · simp [← hg]
      · simpa [misses, counts] using hs
      · intro k hk
        simp [misses, counts, hk]
  · simp only [hw, if_false, Option.none_or, true_and]
    refine ⟨?_, ?_⟩
    · simpa [misses, counts] using hs
    · intro k hk
      simp [misses, counts, hk]

theorem call_settle_false (node : K) (live : Option I) :
    l.call (.settle node false live) = (some (l.settleFailure node live channelEvictAfter .probe).1,
      (l.settleFailure node live channelEvictAfter .probe).2) := rfl

theorem call_settleArrivalReplayFailure (node : K) :
    l.call (.settleArrivalReplayFailure node) =
      (some (l.settleFailure node none arrivalReplayEvictAfter .arrivalReplay).1,
        (l.settleFailure node none arrivalReplayEvictAfter .arrivalReplay).2) := rfl

/-- What a call that is no healthy result of the node does to what is kept of it. -/
theorem call_cases (node : K) (c : Call K I) (hc : c.isHealthy node = false) :
    (c.isFailure node = true ∧ (l.call c).2.misses node = min (l.misses node + 1) 255 ∧
        (l.call c).2.lastGood node = if l.misses node + 1 ≤ nodeMissGrace then l.lastGood node else none) ∨
      c.isFailure node = false ∧
        ((l.call c).2.lastGood node = none ∨
          (l.call c).2.lastGood node = l.lastGood node ∧ (l.call c).2.misses node = l.misses node) := by
  have hfail : ∀ (k : K) (live : Option I) (evictAfter : Nat) (kind : FailureKind),
      ((l.settleFailure k live evictAfter kind).2.lastGood node = if k = node then
          (if l.misses node + 1 ≤ nodeMissGrace then l.lastGood node else none) else l.lastGood node) ∧
        (l.settleFailure k live evictAfter kind).2.misses node =
          if k = node then min (l.misses node + 1) 255 else l.misses node := by
    intro k live evictAfter kind
    obtain ⟨-, hg, hm, ho⟩ := l.settleFailure_spec k live evictAfter kind
    by_cases hk : k = node
    · subst hk
      simp [hg, hm]
    · simp [hg, ho node (Ne.symm hk), hk, Ne.symm hk]
  cases c with
  | settle k healthy live =>
    cases healthy with
    | true =>
      have hk : node ≠ k := fun h => by simp [Call.isHealthy, h] at hc
      refine Or.inr ⟨by simp [Call.isFailure], Or.inr ?_⟩
      simp [call, settle, misses, counts, hk]
    | false =>
      obtain ⟨hg, hm⟩ := hfail k live channelEvictAfter .probe
      rw [call_settle_false]
      by_cases hk : k = node
      · exact Or.inl ⟨by simp [Call.isFailure, hk], by simpa [hk] using hm, by simpa [hk] using hg⟩
      · exact Or.inr ⟨by simp [Call.isFailure, hk], Or.inr ⟨by simpa [hk] using hg, by simpa [hk] using hm⟩⟩
  | settleArrivalReplayFailure k =>
    obtain ⟨hg, hm⟩ := hfail k none arrivalReplayEvictAfter .arrivalReplay
    rw [call_settleArrivalReplayFailure]
    by_cases hk : k = node
    · exact Or.inl ⟨by simp [Call.isFailure, hk], by simpa [hk] using hm, by simpa [hk] using hg⟩
    · exact Or.inr ⟨by simp [Call.isFailure, hk], Or.inr ⟨by simpa [hk] using hg, by simpa [hk] using hm⟩⟩
  | defer k => exact Or.inr ⟨rfl, Or.inr ⟨rfl, rfl⟩⟩
  | resetChannelFailuresAfterOpen k =>
    refine Or.inr ⟨rfl, Or.inr ?_⟩
    simp only [call, resetChannelFailuresAfterOpen]
    cases hf : l.failures k with
    | none => exact ⟨rfl, rfl⟩
    | some counts =>
      refine ⟨rfl, ?_⟩
      by_cases hk : node = k
      · simp [misses, NodeLedger.counts, hk, hf]
      · simp [misses, NodeLedger.counts, hk]
  | retainNodes seen =>
    refine Or.inr ⟨rfl, ?_⟩
    cases hs : seen node with
    | false => exact Or.inl (by simp [call, retainNodes, hs])
    | true => exact Or.inr (by simp [call, retainNodes, misses, counts, hs])

/-- **What is reported of a node**: the snapshot where it is replayed, else what the call found. -/
theorem reported_eq (node : K) (c : Call K I) (hc : c.isFailure node = true ∨ c.isDeferral node = true) :
    l.reported c = (l.replayed node c).or c.live := by
  cases c with
  | settle k healthy live =>
    cases healthy with
    | true => simp [Call.isFailure, Call.isDeferral] at hc
    | false =>
      have hk : k = node := by simpa [Call.isFailure, Call.isDeferral] using hc
      obtain ⟨hi, -⟩ := l.settleFailure_spec k live channelEvictAfter .probe
      simpa [reported, call, settle, replayed, Call.isFailure, Call.isDeferral, Call.live, hk] using hi
  | settleArrivalReplayFailure k =>
    have hk : k = node := by simpa [Call.isFailure, Call.isDeferral] using hc
    obtain ⟨hi, -⟩ := l.settleFailure_spec k none arrivalReplayEvictAfter .arrivalReplay
    simpa [reported, call_settleArrivalReplayFailure, replayed, Call.isFailure, Call.isDeferral, Call.live, hk]
      using hi
  | defer k =>
    have hk : k = node := by simpa [Call.isFailure, Call.isDeferral] using hc
    simp [reported, call, defer, replayed, Call.isDeferral, Call.live, hk]
  | resetChannelFailuresAfterOpen k => simp [Call.isFailure, Call.isDeferral] at hc
  | retainNodes seen => simp [Call.isFailure, Call.isDeferral] at hc

/-! ## Runs without a healthy result of the node -/

theorem lastGood_none_after (node : K) : ∀ (calls : List (Call K I)) (l : NodeLedger K I),
    (∀ c ∈ calls, c.isHealthy node = false) → l.lastGood node = none → (l.after calls).lastGood node = none
  | [], _, _, h => h
  | c :: calls, l, hc, h => by
    refine lastGood_none_after node calls _ (fun d hd => hc d (by simp [hd])) ?_
    rcases l.call_cases node c (hc c (by simp)) with ⟨-, -, hg⟩ | ⟨-, hg | ⟨hg, -⟩⟩
    · rw [hg, h, ite_self]
    · exact hg
    · rw [hg, h]

theorem replays_of_none (node : K) : ∀ (calls : List (Call K I)) (l : NodeLedger K I),
    (∀ c ∈ calls, c.isHealthy node = false) → l.lastGood node = none → l.replays (Call.isFailure node) node calls = 0
  | [], _, _, _ => rfl
  | c :: calls, l, hc, h => by
    have hn : (l.call c).2.lastGood node = none := lastGood_none_after node [c] l (by simpa using hc c (by simp)) h
    have htail := replays_of_none node calls _ (fun d hd => hc d (by simp [hd])) hn
    simp [replays, htail, replayed, h]

/-- **Each replay spends one of the misses that are left.** -/
theorem replays_le (node : K) : ∀ (calls : List (Call K I)) (l : NodeLedger K I),
    (∀ c ∈ calls, c.isHealthy node = false) →
      l.replays (Call.isFailure node) node calls ≤ nodeMissGrace - l.misses node
  | [], _, _ => Nat.zero_le _
  | c :: calls, l, hc => by
    have htail : ∀ d ∈ calls, d.isHealthy node = false := fun d hd => hc d (by simp [hd])
    have ih := replays_le node calls (l.call c).2 htail
    rw [replays]
    rcases l.call_cases node c (hc c (by simp)) with ⟨hf, hm, hg⟩ | ⟨hf, hg | ⟨-, hm⟩⟩
    · by_cases hw : l.misses node + 1 ≤ nodeMissGrace
      · rw [hm] at ih
        have hone : (if c.isFailure node && (l.replayed node c).isSome then 1 else 0) ≤ 1 := by split <;> omega
        have h255 : nodeMissGrace < 255 := by decide
        omega
      · rw [replays_of_none node calls _ htail (by rw [hg, if_neg hw])]
        have hno : l.replayed node c = none := by
          cases c <;> simp [replayed, hw, Call.isDeferral, Call.isFailure] at hf ⊢
        simp [hno]
    · rw [replays_of_none node calls _ htail hg, hf]
      simp
    · rw [hm] at ih
      simpa [hf] using ih

/-- A snapshot that is still kept has not been outlived by more failures than the grace. -/
theorem failures_le_of_kept (node : K) : ∀ (calls : List (Call K I)) (l : NodeLedger K I),
    (∀ c ∈ calls, c.isHealthy node = false) → (l.after calls).lastGood node ≠ none →
      l.misses node + calls.countP (Call.isFailure node) ≤ max nodeMissGrace (l.misses node)
  | [], l, _, _ => by
    rw [List.countP_nil]
    omega
  | c :: calls, l, hc, hk => by
    have htail : ∀ d ∈ calls, d.isHealthy node = false := fun d hd => hc d (by simp [hd])
    have ih := failures_le_of_kept node calls (l.call c).2 htail hk
    have hkept : (l.call c).2.lastGood node ≠ none := fun h => hk (lastGood_none_after node calls _ htail h)
    rcases l.call_cases node c (hc c (by simp)) with ⟨hf, hm, hg⟩ | ⟨hf, hg | ⟨-, hm⟩⟩
    · by_cases hw : l.misses node + 1 ≤ nodeMissGrace
      · rw [hm] at ih
        rw [List.countP_cons_of_pos hf]
        have h255 : nodeMissGrace < 255 := by decide
        omega
      · exact absurd (by rw [hg, if_neg hw]) hkept
    · exact absurd hg hkept
    · rw [hm] at ih
      rw [List.countP_cons_of_neg (by simp [hf])]
      exact ih

theorem after_append (xs ys : List (Call K I)) : l.after (xs ++ ys) = (l.after xs).after ys :=
  List.foldl_append

theorem lastHealthy_of_lastGood (node : K) (calls : List (Call K I)) {inv : I}
    (h : ((empty : NodeLedger K I).after calls).lastGood node = some inv) : lastHealthy node calls = some inv := by
  induction calls using List.reverseRecOn generalizing inv with
  | nil => cases h
  | append_singleton calls c ih =>
    rw [after_append] at h
    unfold lastHealthy at ih ⊢
    rw [List.foldl_append]
    by_cases hc : c.isHealthy node = true
    · cases c with
      | settle k healthy live =>
        obtain ⟨hk, rfl⟩ : k = node ∧ healthy = true := by simpa [Call.isHealthy] using hc
        simpa [after, call, settle, hk, Call.isHealthy, Call.live] using h
      | _ => cases hc
    · have hc' : c.isHealthy node = false := by simpa using hc
      simp only [List.foldl_cons, List.foldl_nil, hc', Bool.false_eq_true, if_false]
      refine ih ?_
      rcases (empty.after calls).call_cases node c hc' with ⟨-, -, hg⟩ | ⟨-, hg | ⟨hg, -⟩⟩
      · have h2 : (((empty : NodeLedger K I).after calls).call c).2.lastGood node = some inv := h
        rw [hg] at h2
        split at h2
        · exact h2
        · cases h2
      · exact absurd (hg.symm.trans h) (by simp)
      · exact hg.symm.trans h

/-- **What is remembered of a node is what its last healthy result reported**, and a failed or deferred probe reports
that or what it found itself. -/
theorem lastGood_eq_lastHealthy (node : K) (calls : List (Call K I)) {inv : I}
    (h : ((empty : NodeLedger K I).after calls).lastGood node = some inv) :
    lastHealthy node calls = some inv ∧ ∀ c, c.isFailure node = true ∨ c.isDeferral node = true →
      (empty.after calls).reported c = lastHealthy node calls ∨ (empty.after calls).reported c = c.live := by
  have hlast := lastHealthy_of_lastGood node calls h
  refine ⟨hlast, fun c hc => ?_⟩
  rw [(empty.after calls).reported_eq node c hc, replayed, hlast, h]
  split
  · exact .inl rfl
  · exact .inr rfl

/-- Two failures after what a healthy node reported, and a third. -/
theorem kept_through_failures : let calls := [.settle 0 true (some 5), .settle 0 false (some 9),
      .settleArrivalReplayFailure 0]
    lastHealthy 0 calls = some 5 ∧ (empty.after calls).reported (.settle 0 false (some 7)) = some 5 := by
  intro calls
  obtain ⟨hlast, hreported⟩ := lastGood_eq_lastHealthy (0 : Nat) calls
    (show (empty.after calls).lastGood 0 = some 5 by decide)
  refine ⟨hlast, ?_⟩
  rcases hreported (.settle 0 false (some 7)) (.inl rfl) with h | h
  · rw [h, hlast]
  · exact absurd h (by decide)

theorem replayed_of_after_none (node : K) (c : Call K I) (hc : c.isHealthy node = false)
    (h : (l.call c).2.lastGood node = none) : l.replayed node c = none := by
  unfold replayed
  split
  · rename_i hw
    rcases l.call_cases node c hc with ⟨hf, -, hg⟩ | ⟨hf, hg⟩
    · have hd : c.isDeferral node = false := by cases c <;> simp_all [Call.isFailure, Call.isDeferral]
      rw [if_pos (by simpa [hd, hf] using hw)] at hg
      exact hg.symm.trans h
    · have hd : c.isDeferral node = true := by simpa [hf] using hw
      cases c with
      | defer k => exact h
      | _ => cases hd
  · rfl

theorem not_healthy (node : K) (c : Call K I) (hc : c.isFailure node = true ∨ c.isDeferral node = true) :
    c.isHealthy node = false := by
  cases c with
  | settle k healthy live => cases healthy <;> simp_all [Call.isFailure, Call.isHealthy, Call.isDeferral]
  | _ => rfl

/-- **The grace**: from any ledger and until the node's next healthy result, its snapshot answers at most
`nodeMissGrace` failures of either kind, and once more failures than that have come no failure and no deferral reports
it again. -/
theorem replay_grace (l : NodeLedger K I) (node : K) (calls : List (Call K I))
    (hc : ∀ c ∈ calls, c.isHealthy node = false) :
    l.replays (Call.isFailure node) node calls ≤ nodeMissGrace ∧
      ∀ c : Call K I, c.isFailure node = true ∨ c.isDeferral node = true →
        nodeMissGrace < (calls ++ [c]).countP (Call.isFailure node) →
          (l.after calls).replayed node c = none ∧ (l.after calls).reported c = c.live := by
  refine ⟨Nat.le_trans (l.replays_le node calls hc) (Nat.sub_le _ _), fun c hk hn => ?_⟩
  have hch := not_healthy node c hk
  have hcs : ∀ d ∈ calls ++ [c], d.isHealthy node = false := by
    intro d hd
    rcases List.mem_append.1 hd with hd | hd
    · exact hc d hd
    · rw [List.mem_singleton.1 hd]
      exact hch
  have hgone : (l.after (calls ++ [c])).lastGood node = none := by
    by_contra hne
    have := l.failures_le_of_kept node (calls ++ [c]) hcs hne
    omega
  rw [after_append] at hgone
  have hnone := replayed_of_after_none _ node c hch hgone
  refine ⟨hnone, ?_⟩
  rw [reported_eq _ node c hk, hnone, Option.none_or]

theorem replay_grace_mixed :
    let pre : List (Call Nat Nat) := [.settle 1 true (some 7)]
    let calls : List (Call Nat Nat) :=
      [.settle 1 false none, .settleArrivalReplayFailure 1, .defer 1, .resetChannelFailuresAfterOpen 1,
        .settleArrivalReplayFailure 1, .settle 1 false none]
    ((empty.after pre).replays (Call.isFailure 1) 1 calls = 3) ∧
      ((empty.after pre).after calls).reported (.defer 1) = none :=
  ⟨by decide, ((replay_grace _ 1 _ (by decide)).2 (.defer 1) (by decide) (by decide)).2⟩

/-- A deferred tick replays the snapshot without spending the grace. -/
theorem deferrals_outlast_grace :
    ¬ ∀ (pre calls : List (Call Nat Nat)) (node : Nat), (∀ c ∈ calls, c.isHealthy node = false) →
      (empty.after pre).replays (fun c => c.isFailure node || c.isDeferral node) node calls ≤ nodeMissGrace := by
  intro h
  have hfour := h [.settle 1 true (some 7)] [.defer 1, .defer 1, .defer 1, .defer 1] 1 (by decide)
  exact absurd hfour (by decide)

end NodeLedger
end Inventory
end OpenLogi
