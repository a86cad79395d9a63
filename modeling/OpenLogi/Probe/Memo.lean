import OpenLogi.Probe.Unreported
/-!
# Memo — what a probe leaves in the cache

A due probe's set is memoized when no reported read of it failed.  The wheel's read and the gesture table's count a lost
reply as a no without reporting it, so a set that lacks only what they would have said is memoized too.
-/
namespace OpenLogi
namespace Probe

open Agent (Capabilities)

inductive CacheKey where
  | bolt (unitId : List UInt8)
  | unifyingSlot (receiverUid : String) (slot : UInt8)
  | direct (node : String)
  deriving DecidableEq

structure Cached where
  probe : ProbedFeatures
  battery : Option BatteryProbe
  probedAt : Nat
  deriving DecidableEq

inductive CacheOutcome where
  | fresh (key : CacheKey) (entry : Cached)
  | update (key : CacheKey) (entry : Cached)
  | seen (key : CacheKey)
  | unkeyed
  deriving DecidableEq

def seen : Option CacheKey → CacheOutcome
  | some key => .seen key
  | none => .unkeyed

/-- In milliseconds. -/
def refreshInterval : Nat := 30000

def isStale (cached : Cached) (now : Nat) : Bool := decide (refreshInterval < now - cached.probedAt)

/-- A complete walk outranks a later one that a lost reply cut short. -/
def keepKnownCapabilities (fresh known : ProbedFeatures) : ProbedFeatures :=
  match fresh.protocol, known.protocol with
  | .hidpp20 _ true, .hidpp20 capabilities _ => { fresh with protocol := .hidpp20 capabilities true }
  | _, _ => fresh

/-- Identity that the fresh probe failed to read is taken from the cached one. -/
def backfillIdentity (fresh known : ProbedFeatures) : ProbedFeatures :=
  if fresh.identityIncomplete then
    match fresh.modelInfo, known.modelInfo with
    | none, some previous => { fresh with modelInfo := some previous, identityIncomplete := false }
    | some now, some previous =>
      if now.serialNumber = none ∧ previous.serialNumber ≠ none then
        { fresh with
          modelInfo := some { now with serialNumber := previous.serialNumber }
          identityIncomplete := false }
      else fresh
    | _, none => fresh
  else fresh

def backfilled (cached : Option Cached) (fresh : ProbedFeatures) : ProbedFeatures :=
  match cached with
  | some known => backfillIdentity fresh known.probe
  | none => fresh

def withKnownCapabilities (cached : Option Cached) (fresh : ProbedFeatures) : ProbedFeatures :=
  match cached with
  | some known => keepKnownCapabilities fresh known.probe
  | none => fresh

/-- What stands for a device whose probe was not completed. -/
def lastKnown (cached : Option Cached) (fresh : ProbedFeatures) : ProbedFeatures :=
  match cached with
  | some known => known.probe
  | none => fresh

/-- What a due probe contributes; `cached` is the entry it refreshes. -/
def settleProbe (id : Option CacheKey) (cached : Option Cached) (now : Nat)
    (probed : ProbedFeatures × Option BatteryProbe) : ProbedFeatures × CacheOutcome :=
  if probed.1.completed then
    let fresh := backfilled cached probed.1
    if fresh.identityIncomplete && cached.isNone then (fresh, seen id)
    else if fresh.capabilitiesIncomplete then (withKnownCapabilities cached fresh, seen id)
    else
      match id with
      | some key => (fresh, .fresh key { probe := fresh, battery := probed.2, probedAt := now })
      | none => (fresh, .unkeyed)
  else (lastKnown cached probed.1, seen id)

def unreachableStandIn (cached : Cached) : ProbedFeatures := { cached.probe with refresh := .failed }

/-- `probe_or_reuse_registered`, without the battery's reading and the events.  `inTime`: a refresh's walk ended within
its budget. -/
def probeOrReuse (l : Link) (id : Option CacheKey) (cached : Option Cached) (online : Bool) (now : Nat)
    (inTime : Bool) : ProbedFeatures × CacheOutcome :=
  match cached with
  | none => if online then settleProbe id none now l.probeFeatures else ({}, seen id)
  | some known =>
    if online && isStale known now then
      match l.refreshFeatures inTime with
      | .answered (some probed) => settleProbe id cached now probed
      | .answered none => (known.probe, seen id)
      | .unreachable => (unreachableStandIn known, seen id)
    else
      match online, known.battery, id with
      | true, some _, some key => (known.probe, .update key known)
      | _, _, _ => (known.probe, seen id)

/-! ## What a settled probe memoizes and publishes -/

theorem backfillIdentity_protocol (fresh known : ProbedFeatures) :
    (backfillIdentity fresh known).protocol = fresh.protocol := by
  unfold backfillIdentity
  split
  · split
    · rfl
    · split <;> rfl
    · rfl
  · rfl

theorem backfilled_protocol (cached : Option Cached) (fresh : ProbedFeatures) :
    (backfilled cached fresh).protocol = fresh.protocol := by
  cases cached with
  | none => rfl
  | some known => exact backfillIdentity_protocol fresh known.probe

theorem backfilled_incomplete (cached : Option Cached) (fresh : ProbedFeatures) :
    (backfilled cached fresh).capabilitiesIncomplete = fresh.capabilitiesIncomplete := by
  simp only [ProbedFeatures.capabilitiesIncomplete, backfilled_protocol]

theorem seen_ne_fresh (id : Option CacheKey) (key : CacheKey) (entry : Cached) : seen id ≠ .fresh key entry := by
  cases id <;> simp [seen]

theorem seen_ne_update (id : Option CacheKey) (key : CacheKey) (entry : Cached) : seen id ≠ .update key entry := by
  cases id <;> simp [seen]

variable {id : Option CacheKey}

/-- Only a probe none of whose reported reads failed is memoized. -/
theorem settleProbe_fresh {cached : Option Cached} {now : Nat} {probed : ProbedFeatures × Option BatteryProbe}
    {key : CacheKey} {entry : Cached} (h : (settleProbe id cached now probed).2 = .fresh key entry) :
    probed.1.completed = true ∧ probed.1.capabilitiesIncomplete = false ∧
      entry.probe.protocol = probed.1.protocol := by
  unfold settleProbe at h
  split at h
  · rename_i done
    dsimp only at h
    split at h
    · exact absurd h (seen_ne_fresh _ _ _)
    · split at h
      · exact absurd h (seen_ne_fresh _ _ _)
      · rename_i complete
        rw [backfilled_incomplete] at complete
        cases id with
        | none => cases h
        | some key =>
          cases h
          exact ⟨done, by simpa using complete, backfilled_protocol cached probed.1⟩
  · exact absurd h (seen_ne_fresh _ _ _)

theorem settleProbe_update (id : Option CacheKey) (cached : Option Cached) (now : Nat)
    (probed : ProbedFeatures × Option BatteryProbe) (key : CacheKey) (entry : Cached) :
    (settleProbe id cached now probed).2 ≠ .update key entry := by
  unfold settleProbe
  split
  · dsimp only
    split
    · exact seen_ne_update _ _ _
    · split
      · exact seen_ne_update _ _ _
      · split <;> simp
  · exact seen_ne_update _ _ _

theorem capabilitiesIncomplete_eq_true {p : ProbedFeatures} (h : p.capabilitiesIncomplete = true) :
    ∃ capabilities, p.protocol = .hidpp20 capabilities true := by
  unfold ProbedFeatures.capabilitiesIncomplete at h
  split at h
  · rename_i capabilities incomplete shape
    exact ⟨capabilities, by rw [shape, h]⟩
  · cases h
  · cases h

/-- **A known device's complete set is published until a complete probe replaces it.** -/
theorem settleProbe_published (id : Option CacheKey) {known : Cached} (now : Nat)
    (probed : ProbedFeatures × Option BatteryProbe) {capabilities : Capabilities}
    (h : known.probe.protocol = .hidpp20 capabilities false) :
    (settleProbe id (some known) now probed).1.capabilities = some capabilities ∨
      (probed.1.completed = true ∧ probed.1.capabilitiesIncomplete = false ∧
        (settleProbe id (some known) now probed).1.capabilities = probed.1.capabilities) := by
  have same := backfilled_protocol (some known) probed.1
  unfold settleProbe
  cases done : probed.1.completed with
  | false => exact .inl (by simp [lastKnown, ProbedFeatures.capabilities, h])
  | true =>
    simp only [if_true, Option.isNone_some, Bool.and_false, Bool.false_eq_true, if_false, backfilled_incomplete]
    cases cut : probed.1.capabilitiesIncomplete with
    | true =>
      left
      obtain ⟨partly, fresh⟩ := capabilitiesIncomplete_eq_true cut
      rw [fresh] at same
      simp [withKnownCapabilities, keepKnownCapabilities, ProbedFeatures.capabilities, same, h]
    | false =>
      refine .inr ⟨trivial, rfl, ?_⟩
      rw [if_neg (by simp)]
      cases id <;> simp only [ProbedFeatures.capabilities, same]

/-! ## A complete probe -/

namespace Link

/-- **The requests whose replies make a probe complete**, beside the two reads that are not reported. -/
structure CapabilityReads (l : Link) (t : FeatureTable) : Prop where
  table : l.TableReplies t
  reported : l.ReportedReads t
  battery : ∀ r, batteryRequest t.batteryFeatureIndex = some r → l.Replies r

variable {l : Link} {t : FeatureTable}

theorem probeHidpp20_table (h : l.enumerateFeatures = .ok (some t)) :
    (l.probeHidpp20).1.protocol =
      .hidpp20 (l.probeReported t (l.unreported t)).1
        (decide ((l.probeReported t (l.unreported t)).2 ≠ .ok ()) ||
          (l.resolveBatteryCapability t.batteryFeatureIndex).2) := by
  unfold probeHidpp20
  rw [h]
  rfl

theorem unreported_flags (l : Link) (t : FeatureTable) :
    (l.unreported t).osLayout = t.deriveCapabilities.osLayout ∧
      (l.unreported t).forceSensing = t.deriveCapabilities.forceSensing := by
  rw [unreported_eq]
  exact ⟨rfl, rfl⟩

/-- **What a complete probe read**: the table, and every capability but the two. -/
theorem probeHidpp20_complete (done : (l.probeHidpp20).1.completed = true)
    (complete : (l.probeHidpp20).1.capabilitiesIncomplete = false) :
    ∃ t, l.answered.enumerateFeatures = .ok (some t) ∧ l.CapabilityReads t ∧
      (l.probeHidpp20).1.capabilities = some (l.answered.probeReported t (l.unreported t)).1 := by
  cases hl : l.enumerateFeatures with
  | error error => simp [probeHidpp20, hl, ProbedFeatures.completed] at done
  | ok read =>
    cases read with
    | none => simp [probeHidpp20, hl, ProbedFeatures.completed] at done
    | some t =>
      obtain ⟨table, same⟩ := enumerateFeatures_ok hl
      have shape := probeHidpp20_table hl
      simp only [ProbedFeatures.capabilitiesIncomplete, shape, Bool.or_eq_false_iff, decide_eq_false_iff_not,
        ne_eq, not_not] at complete
      have flags := l.unreported_flags t
      refine ⟨t, same, ⟨table, (probeReported_ok flags.1 flags.2).mp complete.1, ?_⟩, ?_⟩
      · exact (resolveBatteryCapability_known l _).mp complete.2
      · rw [probeReported_answered complete.1]
        simp only [ProbedFeatures.capabilities, shape]

theorem probeHidpp20_of_reads (ht : l.answered.enumerateFeatures = .ok (some t)) (h : l.CapabilityReads t) :
    (l.probeHidpp20).1.protocol = .hidpp20 (l.probeReported t (l.unreported t)).1 false := by
  have flags := l.unreported_flags t
  rw [probeHidpp20_table (enumerateFeatures_of_replies h.table ht)]
  rw [(probeReported_ok flags.1 flags.2).mpr h.reported, (resolveBatteryCapability_known l _).mpr h.battery]
  rfl

theorem answered_capabilities (ht : l.answered.enumerateFeatures = .ok (some t)) :
    (l.answered.probeHidpp20).1.capabilities = some (l.answered.probeReported t (l.answered.unreported t)).1 := by
  simp only [ProbedFeatures.capabilities, probeHidpp20_table ht]

end Link

/-! ## The cache after a probe -/

/-- **What a probe leaves, of a set of capabilities**: a fresh entry has the device's own set, a reused one the set it
had, and a known complete set gives way to the device's own only. -/
structure Kept (l : Link) (cached : Option Cached) (result : ProbedFeatures × CacheOutcome) : Prop where
  fresh : ∀ key entry, result.2 = .fresh key entry →
    entry.probe.capabilities = (l.answered.probeHidpp20).1.capabilities
  update : ∀ key entry, result.2 = .update key entry →
    ∃ known, cached = some known ∧ entry.probe.protocol = known.probe.protocol
  published : ∀ known capabilities, cached = some known → known.probe.protocol = .hidpp20 capabilities false →
    result.1.capabilities = some capabilities ∨ result.1.capabilities = (l.answered.probeHidpp20).1.capabilities

/-- Over every cache entry, every time and every refresh that ends in time or not. -/
def NeverMemoizesLoss (l : Link) : Prop :=
  ∀ id cached online now inTime, Kept l cached (probeOrReuse l id cached online now inTime)

/-- A probe whose complete outcomes are the device's own keeps the cache true. -/
theorem Kept.settle {l : Link} {cached : Option Cached} {now : Nat} {probed : ProbedFeatures × Option BatteryProbe}
    (h : probed.1.completed = true → probed.1.capabilitiesIncomplete = false →
      probed.1.capabilities = (l.answered.probeHidpp20).1.capabilities) :
    Kept l cached (settleProbe id cached now probed) where
  fresh key entry fresh := by
    obtain ⟨done, complete, same⟩ := settleProbe_fresh fresh
    rw [← h done complete]
    simp only [ProbedFeatures.capabilities, same]
  update key entry update := absurd update (settleProbe_update _ _ _ _ _ _)
  published known capabilities hk complete := by
    subst hk
    rcases settleProbe_published id now probed complete with same | ⟨done, whole, same⟩
    · exact .inl same
    · exact .inr (same.trans (h done whole))

theorem Kept.known {l : Link} {known : Cached} {probe : ProbedFeatures} (h : probe.protocol = known.probe.protocol) :
    Kept l (some known) (probe, seen id) where
  fresh key entry fresh := absurd fresh (seen_ne_fresh _ _ _)
  update key entry update := absurd update (seen_ne_update _ _ _)
  published other capabilities hk complete := by
    cases hk
    left
    simp only [ProbedFeatures.capabilities, h, complete]

/-- **A run's probe settles truly** where its complete outcomes are the device's own. -/
theorem kept_probeOrReuse {l : Link}
    (h : l.Replies Link.pingRequest → (l.probeHidpp20).1.completed = true →
      (l.probeHidpp20).1.capabilitiesIncomplete = false →
        (l.probeHidpp20).1.capabilities = (l.answered.probeHidpp20).1.capabilities) : NeverMemoizesLoss l := by
  have pinged : l.answersPing = true → l.Replies Link.pingRequest := by
    unfold Link.answersPing
    intro answers
    rcases Link.call_cases l Link.pingRequest with ⟨_, _, replies⟩ | ⟨error, hr, _⟩
    · exact replies
    · simp [hr, Except.isOk, Except.toBool] at answers
  intro id cached online now inTime
  unfold probeOrReuse
  cases cached with
  | none =>
    cases online with
    | true =>
      refine Kept.settle ?_
      unfold Link.probeFeatures
      split
      · rename_i answers
        exact h (pinged answers)
      · intro done
        cases done
    | false =>
      exact
        { fresh := fun key entry fresh => absurd fresh (seen_ne_fresh _ _ _)
          update := fun key entry update => absurd update (seen_ne_update _ _ _)
          published := fun known capabilities hk => by cases hk }
  | some known =>
    dsimp only
    split
    · unfold Link.refreshFeatures
      cases hp : l.answersPing with
      | false => exact Kept.known rfl
      | true =>
        cases inTime with
        | true => exact Kept.settle (h (pinged hp))
        | false => exact Kept.known rfl
    · split
      · exact
          { fresh := fun key entry fresh => by cases fresh
            update := fun key entry update => by cases update; exact ⟨known, rfl, rfl⟩
            published := fun other capabilities hk complete => by
              cases hk
              left
              simp only [ProbedFeatures.capabilities, complete] }
      · exact Kept.known rfl

/-- **A lost reply is memoized as a missing capability exactly when it is one of the two unreported reads' and no
reported read fails beside it.** -/
theorem neverMemoizesLoss_iff (l : Link) :
    NeverMemoizesLoss l ↔
      ∀ t, l.answered.enumerateFeatures = .ok (some t) → l.HiddenRead t →
        ¬ (l.Replies Link.pingRequest ∧ l.CapabilityReads t) := by
  constructor
  · rintro kept t ht hidden ⟨ping, reads⟩
    have stale : isStale ⟨{}, none, 0⟩ (refreshInterval + 1) = true := by decide
    have answers : l.answersPing = true := by
      obtain ⟨message, hr, _⟩ := Link.call_of_replies ping
      simp only [Link.answersPing, hr, Except.isOk, Except.toBool]
    have shape := Link.probeHidpp20_of_reads ht reads
    -- a due refresh of an old entry memoizes the complete probe
    have fresh : ∃ entry, (probeOrReuse l (some (.direct "")) (some ⟨{}, none, 0⟩) true (refreshInterval + 1) true).2 =
        .fresh (.direct "") entry ∧ entry.probe.protocol = (l.probeHidpp20).1.protocol := by
      have due : probeOrReuse l (some (.direct "")) (some ⟨{}, none, 0⟩) true (refreshInterval + 1) true =
          settleProbe (some (.direct "")) (some ⟨{}, none, 0⟩) (refreshInterval + 1) l.probeHidpp20 := by
        simp only [probeOrReuse, stale, Bool.and_true, if_true, Link.refreshFeatures, answers]
      have done : (l.probeHidpp20).1.completed = true := by simp [ProbedFeatures.completed, shape]
      have complete : (l.probeHidpp20).1.capabilitiesIncomplete = false := by
        simp only [ProbedFeatures.capabilitiesIncomplete, shape]
      refine ⟨⟨backfilled (some ⟨{}, none, 0⟩) (l.probeHidpp20).1, (l.probeHidpp20).2, refreshInterval + 1⟩, ?_,
        backfilled_protocol _ _⟩
      rw [due]
      simp only [settleProbe, done, if_true, Option.isNone_some, Bool.and_false, Bool.false_eq_true, if_false,
        backfilled_incomplete, complete]
    obtain ⟨entry, fresh, protocol⟩ := fresh
    have same := (kept _ _ _ _ _).fresh _ _ fresh
    rw [Link.answered_capabilities ht] at same
    simp only [ProbedFeatures.capabilities, protocol, shape, Option.some.injEq] at same
    -- the reported reads leave what the two read as it is
    have mine := l.probeReported_unreported t (l.unreported t)
    have theirs := l.answered.probeReported_unreported t (l.answered.unreported t)
    rw [← same, mine.1, mine.2, Link.unreported_eq, Link.unreported_eq] at theirs
    rcases Link.hidden_changes hidden with ⟨yes, no⟩ | ⟨yes, no⟩
    · simp [yes, no] at theirs
    · simp [yes, no] at theirs
  · intro h
    refine kept_probeOrReuse fun ping done complete => ?_
    obtain ⟨t, ht, reads, read⟩ := Link.probeHidpp20_complete done complete
    have shown : ¬ l.HiddenRead t := fun hidden => h t ht hidden ⟨ping, reads⟩
    rw [read, Link.answered_capabilities ht, Link.unreported_of_not_hidden shown]

/-- A mouse with a wheel that can invert, whose reply about the wheel is lost. -/
def invertingWheel : Link where
  answer r :=
    if r = Link.pingRequest then .reply ⟨false, [4, 5, 0]⟩
    else if r = Link.rootRequest then .reply ⟨false, [1, 0, 0]⟩
    else if r = Link.countRequest 1 then .reply ⟨false, [2, 0, 0]⟩
    else if r = Link.entryRequest 1 0 then .reply ⟨true, [0, 1, 0, 0]⟩
    else if r = Link.entryRequest 1 1 then .reply ⟨true, [0x21, 0x21, 0, 0]⟩
    else if r = Link.zeroRequest 2 then .reply ⟨true, [8, 8, 0]⟩
    else .error (.other 2)
  lost r _ := r = Link.zeroRequest 2

/-- The mouse is memoized without scroll inversion. -/
theorem invertingWheel_memoized : ¬ NeverMemoizesLoss invertingWheel := by
  intro kept
  have fresh : (probeOrReuse invertingWheel (some (.direct "")) none true 0 true).2 =
      .fresh (.direct "") ⟨(invertingWheel.probeHidpp20).1, (invertingWheel.probeHidpp20).2, 0⟩ := by decide +kernel
  have same := (kept _ _ _ _ _).fresh _ _ fresh
  have differ : (invertingWheel.probeHidpp20).1.capabilities ≠
      (invertingWheel.answered.probeHidpp20).1.capabilities := by decide +kernel
  exact differ same

end Probe
end OpenLogi
