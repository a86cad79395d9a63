import OpenLogi.Probe.Features
/-!
# Answered — what the lost requests change in the reads of a probe

The same link with no request lost is what a probe is measured against.  A read whose failure is reported and that does
not fail reads the same there; which replies it takes for that is said request by request.
-/
namespace OpenLogi
namespace Probe

open Agent (Capabilities)

namespace Link

/-- **The device with every request answered.** -/
def answered (l : Link) : Link := { l with lost := fun _ _ => false }

/-- The request's reply arrives. -/
def Replies (l : Link) (r : Request) : Prop := l.lost r 0 = false ∧ ∃ message, l.answer r = .reply message

/-- One of the four asks for an entry gets its reply. -/
def EntryReplies (l : Link) (r : Request) : Prop :=
  (∃ attempt ∈ List.range featureReadAttempts, l.lost r attempt = false) ∧ ∃ message, l.answer r = .reply message

/-- The device says something other than that it is busy. -/
def Answers (l : Link) (r : Request) : Prop := l.lost r 0 = false ∧ l.answer r ≠ .error .busy

@[simp] theorem answered_lost (l : Link) (r : Request) (attempt : Nat) : l.answered.lost r attempt = false := rfl

@[simp] theorem answered_answer (l : Link) (r : Request) : l.answered.answer r = l.answer r := rfl

variable {l : Link} {r : Request} {message : Message} {featureSet index : UInt8} {t : FeatureTable}
  {caps read : Capabilities}

theorem call_eq_ok :
    l.call r = .ok message ↔ l.lost r 0 = false ∧ l.answer r = .reply message := by
  unfold call ask
  cases hl : l.lost r 0 with
  | true => simp
  | false => cases ha : l.answer r <;> simp

theorem call_of_replies (h : l.Replies r) :
    ∃ message, l.call r = .ok message ∧ l.answer r = .reply message := by
  obtain ⟨kept, message, reply⟩ := h
  exact ⟨message, call_eq_ok.mpr ⟨kept, reply⟩, reply⟩

theorem replies_of_call (h : l.call r = .ok message) : l.Replies r :=
  ⟨(call_eq_ok.mp h).1, message, (call_eq_ok.mp h).2⟩

theorem call_cases (l : Link) (r : Request) :
    (∃ message, l.call r = .ok message ∧ l.Replies r) ∨ ∃ error, l.call r = .error error ∧ ¬ l.Replies r := by
  cases hr : l.call r with
  | ok message => exact .inl ⟨message, rfl, replies_of_call hr⟩
  | error error =>
    refine .inr ⟨error, rfl, fun replies => ?_⟩
    obtain ⟨message, same, _⟩ := call_of_replies replies
    rw [hr] at same
    cases same

theorem call_answered_ok (h : l.call r = .ok message) :
    l.answered.call r = .ok message := call_eq_ok.mpr ⟨rfl, (call_eq_ok.mp h).2⟩

/-! ## The table -/

theorem readFeatureEntry_ok (l : Link) (r : Request) (message : Message) : ∀ attempts : List Nat,
    l.readFeatureEntry r attempts = .ok message ↔
      (∃ attempt ∈ attempts, l.lost r attempt = false) ∧ l.answer r = .reply message
  | [] => by simp [readFeatureEntry]
  | attempt :: attempts => by
    have rest := readFeatureEntry_ok l r message attempts
    unfold readFeatureEntry ask
    cases hl : l.lost r attempt with
    | true => simp [rest, hl]
    | false => cases ha : l.answer r <;> simp [hl]

theorem readFeature_ok {position : Nat} {feature : FeatureInformation}
    (h : l.readFeature featureSet position = .ok feature) :
    l.EntryReplies (entryRequest featureSet position) ∧ l.answered.readFeature featureSet position = .ok feature := by
  unfold readFeature at h ⊢
  cases hr : l.readFeatureEntry (entryRequest featureSet position) (List.range featureReadAttempts) with
  | error error => rw [hr] at h; cases h
  | ok message =>
    obtain ⟨kept, reply⟩ := (readFeatureEntry_ok _ _ _ _).mp hr
    have same := (readFeatureEntry_ok l.answered (entryRequest featureSet position) message
      (List.range featureReadAttempts)).mpr ⟨⟨0, by decide, rfl⟩, reply⟩
    rw [hr] at h
    rw [same]
    exact ⟨⟨kept, message, reply⟩, h⟩

theorem readFeature_of_replies {position : Nat} (h : l.EntryReplies (entryRequest featureSet position)) :
    l.readFeature featureSet position = l.answered.readFeature featureSet position := by
  obtain ⟨kept, message, reply⟩ := h
  unfold readFeature
  rw [(readFeatureEntry_ok l _ message _).mpr ⟨kept, reply⟩,
    (readFeatureEntry_ok l.answered _ message _).mpr ⟨⟨0, by decide, rfl⟩, reply⟩]

theorem readFeatures_ok : ∀ {positions : List Nat} {features : List FeatureInformation},
    l.readFeatures featureSet positions = .ok features →
      features.length = positions.length ∧ (∀ p ∈ positions, l.EntryReplies (entryRequest featureSet p)) ∧
        l.answered.readFeatures featureSet positions = .ok features
  | [], features, h => by
    cases h
    exact ⟨rfl, by simp, rfl⟩
  | position :: positions, features, h => by
    simp only [readFeatures] at h ⊢
    cases hf : l.readFeature featureSet position with
    | error error => rw [hf] at h; cases h
    | ok feature =>
      cases hr : l.readFeatures featureSet positions with
      | error error => rw [hf, hr] at h; cases h
      | ok rest =>
        rw [hf, hr] at h
        cases h
        obtain ⟨length, replies, same⟩ := readFeatures_ok hr
        rw [(readFeature_ok hf).2, same]
        refine ⟨by simp [length], ?_, rfl⟩
        intro p hp
        rcases List.mem_cons.mp hp with rfl | hp
        · exact (readFeature_ok hf).1
        · exact replies p hp

theorem readFeatures_of_replies : ∀ {positions : List Nat},
    (∀ p ∈ positions, l.EntryReplies (entryRequest featureSet p)) →
      l.readFeatures featureSet positions = l.answered.readFeatures featureSet positions
  | [], _ => rfl
  | position :: positions, h => by
    simp only [readFeatures]
    rw [readFeature_of_replies (h position (by simp)),
      readFeatures_of_replies fun p hp => h p (List.mem_cons_of_mem _ hp)]

/-- **The requests of the table's read that must get their reply.** -/
structure TableReplies (l : Link) (t : FeatureTable) : Prop where
  root : l.Replies rootRequest
  count : l.Replies (countRequest t.featureSet)
  entries : ∀ position < t.features.length, l.EntryReplies (entryRequest t.featureSet position)

theorem enumerateFeatures_eq_some :
    l.enumerateFeatures = .ok (some t) ↔
      ∃ root count, l.call rootRequest = .ok root ∧ t.featureSet = root.byte 0 ∧ t.featureSet ≠ 0 ∧
        l.call (countRequest t.featureSet) = .ok count ∧
          l.readFeatures t.featureSet (List.range (count.byte 0).toNat) = .ok t.features := by
  unfold enumerateFeatures
  constructor
  · intro h
    cases hroot : l.call rootRequest with
    | error error => rw [hroot] at h; cases h
    | ok root =>
      rw [hroot] at h
      change (if root.byte 0 = 0 then _ else _) = _ at h
      split at h
      · cases h
      · rename_i present
        cases hcount : l.call (countRequest (root.byte 0)) with
        | error error => rw [hcount] at h; cases h
        | ok count =>
          rw [hcount] at h
          change (l.readFeatures _ _ >>= _) = _ at h
          cases hf : l.readFeatures (root.byte 0) (List.range (count.byte 0).toNat) with
          | error error => rw [hf] at h; cases h
          | ok features =>
            rw [hf] at h
            cases h
            exact ⟨root, count, rfl, rfl, present, hcount, hf⟩
  · rintro ⟨root, count, hroot, set, present, hcount, hf⟩
    rw [set] at present hcount hf
    rw [hroot]
    change (if root.byte 0 = 0 then _ else _) = _
    rw [if_neg present, hcount]
    change (l.readFeatures _ _ >>= _) = _
    rw [hf, ← set]
    rfl

theorem enumerateFeatures_ok (h : l.enumerateFeatures = .ok (some t)) :
    l.TableReplies t ∧ l.answered.enumerateFeatures = .ok (some t) := by
  obtain ⟨root, count, hroot, set, present, hcount, hf⟩ := enumerateFeatures_eq_some.mp h
  obtain ⟨length, replies, same⟩ := readFeatures_ok hf
  constructor
  · refine ⟨replies_of_call hroot, replies_of_call hcount, fun position hp => replies position ?_⟩
    simpa [length] using hp
  · exact enumerateFeatures_eq_some.mpr
      ⟨root, count, call_answered_ok hroot, set, present, call_answered_ok hcount, same⟩

theorem call_of_answered (h : l.Replies r) (ha : l.answered.call r = .ok message) : l.call r = .ok message :=
  call_eq_ok.mpr ⟨h.1, (call_eq_ok.mp ha).2⟩

theorem enumerateFeatures_of_replies (h : l.TableReplies t) (ht : l.answered.enumerateFeatures = .ok (some t)) :
    l.enumerateFeatures = .ok (some t) := by
  obtain ⟨root, count, hroot, set, present, hcount, hf⟩ := enumerateFeatures_eq_some.mp ht
  refine enumerateFeatures_eq_some.mpr
    ⟨root, count, call_of_answered h.root hroot, set, present, call_of_answered h.count hcount, ?_⟩
  rw [readFeatures_of_replies fun position hp => h.entries position ?_]
  · exact hf
  · simpa [(readFeatures_ok hf).1] using hp

/-! ## The reads whose failure is reported -/

theorem probeOsLayout_ok (h : l.probeOsLayout t caps = .ok read) :
    (caps.osLayout = true → ∀ index, t.getFeature 0x4531 1 = some index → l.Replies (zeroRequest index)) ∧
      l.answered.probeOsLayout t caps = .ok read := by
  unfold probeOsLayout at h ⊢
  cases has : caps.osLayout with
  | false => exact ⟨by simp, by simpa [has] using h⟩
  | true =>
    rw [if_pos has] at h
    rw [if_pos rfl]
    cases hf : t.getFeature 0x4531 1 with
    | none => exact ⟨by simp, by simpa [hf] using h⟩
    | some index =>
      simp only [hf] at h ⊢
      cases hr : l.call (zeroRequest index) with
      | error error => rw [hr] at h; cases h
      | ok message =>
        rw [hr] at h
        rw [call_answered_ok hr]
        exact ⟨fun _ i hi => Option.some.inj hi ▸ replies_of_call hr, h⟩

theorem probeOsLayout_of_replies (caps : Capabilities)
    (h : caps.osLayout = true → ∀ index, t.getFeature 0x4531 1 = some index → l.Replies (zeroRequest index)) :
    ∃ read, l.probeOsLayout t caps = .ok read := by
  unfold probeOsLayout
  cases has : caps.osLayout with
  | false => exact ⟨caps, rfl⟩
  | true =>
    cases hf : t.getFeature 0x4531 1 with
    | none => exact ⟨caps, rfl⟩
    | some index =>
      obtain ⟨message, hr, _⟩ := call_of_replies (h has index hf)
      exact ⟨_, by simp only [hr]; rfl⟩

/-- The force button's requests that must be answered, be it with a refusal. -/
def ForceAnswers (l : Link) (index : UInt8) : Prop :=
  l.Answers (zeroRequest index) ∧
    ∀ count, l.answer (zeroRequest index) = .reply count → count.byte 0 ≠ 0 → l.Answers (firstRequest index)

theorem forceSensing_call (h : l.Answers r) :
    (∃ message, l.call r = .ok message) ∨
      ∃ error, l.call r = .error error ∧ forceSensingErrorAnswer error = .ok false := by
  obtain ⟨kept, free⟩ := h
  unfold call ask
  rw [kept]
  cases ha : l.answer r with
  | reply message => exact .inl ⟨message, rfl⟩
  | unknownError => exact .inr ⟨_, rfl, rfl⟩
  | error error =>
    cases error with
    | busy => exact absurd ha free
    | other code => exact .inr ⟨_, rfl, rfl⟩

theorem answers_of_call (h : ∀ error, l.call r = .error error → forceSensingErrorAnswer error ≠ .error ()) :
    l.Answers r ∧ l.answered.call r = l.call r := by
  unfold call ask at h ⊢
  cases hl : l.lost r 0 with
  | true => exact absurd rfl (h .channel (by rw [hl]; rfl))
  | false =>
    refine ⟨⟨hl, fun busy => ?_⟩, rfl⟩
    exact h (.feature .busy) (by rw [hl, busy]; rfl) rfl

theorem probeForceSensing_ok {changeable : Bool} (h : l.probeForceSensing index = .ok changeable) :
    l.ForceAnswers index ∧ l.answered.probeForceSensing index = .ok changeable := by
  unfold probeForceSensing at h ⊢
  have first := answers_of_call (l := l) (r := zeroRequest index) fun error he hb => by
    rw [he] at h
    simp [hb] at h
  rw [first.2]
  cases hc : l.call (zeroRequest index) with
  | error error =>
    rw [hc] at h
    exact ⟨⟨first.1, fun count reply _ => by
      rw [call_eq_ok.mpr ⟨first.1.1, reply⟩] at hc
      cases hc⟩, h⟩
  | ok count =>
    rw [hc] at h
    dsimp only at h ⊢
    split at h
    · rename_i none
      rw [if_pos none]
      exact ⟨⟨first.1, fun other reply some => by
        rw [call_eq_ok.mpr ⟨first.1.1, reply⟩] at hc
        cases hc
        exact absurd none some⟩, h⟩
    · rename_i some
      rw [if_neg some]
      have second := answers_of_call (l := l) (r := firstRequest index) fun error he hb => by
        rw [he] at h
        simp [hb] at h
      rw [second.2]
      exact ⟨⟨first.1, fun _ _ _ => second.1⟩, h⟩

theorem probeForceSensing_of_answers (h : l.ForceAnswers index) :
    ∃ changeable, l.probeForceSensing index = .ok changeable := by
  unfold probeForceSensing
  rcases forceSensing_call h.1 with ⟨count, hc⟩ | ⟨error, hc, no⟩
  · simp only [hc]
    split
    · exact ⟨false, rfl⟩
    · rename_i some
      rcases forceSensing_call (h.2 count (call_eq_ok.mp hc).2 some) with ⟨info, hi⟩ | ⟨error, hi, no⟩
      · simp only [hi]
        cases forceButtonIsChangeable info with
        | none => exact ⟨false, rfl⟩
        | some changeable => exact ⟨changeable, rfl⟩
      · exact ⟨false, by simp only [hi, no]⟩
  · exact ⟨false, by simp only [hc, no]⟩

theorem probeForce_ok (h : (l.probeForce t caps).2 = .ok ()) :
    (caps.forceSensing = true → ∀ index, t.getFeature 0x19c0 0 = some index → l.ForceAnswers index) ∧
      l.answered.probeForce t caps = l.probeForce t caps := by
  unfold probeForce at h ⊢
  cases has : caps.forceSensing with
  | false => exact ⟨by simp, rfl⟩
  | true =>
    rw [if_pos has] at h
    rw [if_pos rfl, if_pos rfl]
    cases hf : t.getFeature 0x19c0 0 with
    | none => exact ⟨by simp, rfl⟩
    | some index =>
      simp only [hf] at h ⊢
      cases hr : l.probeForceSensing index with
      | error _ => rw [hr] at h; cases h
      | ok changeable =>
        obtain ⟨answers, same⟩ := probeForceSensing_ok hr
        rw [same]
        exact ⟨fun _ i hi => Option.some.inj hi ▸ answers, rfl⟩

theorem probeForce_of_answers
    (h : caps.forceSensing = true → ∀ index, t.getFeature 0x19c0 0 = some index → l.ForceAnswers index) :
    (l.probeForce t caps).2 = .ok () := by
  unfold probeForce
  cases has : caps.forceSensing with
  | false => rfl
  | true =>
    rw [if_pos rfl]
    cases hf : t.getFeature 0x19c0 0 with
    | none => rfl
    | some index =>
      obtain ⟨changeable, hr⟩ := probeForceSensing_of_answers (h has index hf)
      simp only [hr]

theorem walkRows_ok {haptic : Bool} : ∀ {rows : List Nat} {c walked : Controls},
    l.walkRows index haptic c rows = .ok walked →
      (∀ row ∈ rows, l.Replies (cidRequest index row)) ∧ l.answered.walkRows index haptic c rows = .ok walked
  | [], c, walked, h => ⟨by simp, h⟩
  | row :: rows, c, walked, h => by
    simp only [walkRows] at h ⊢
    cases hr : l.call (cidRequest index row) with
    | error error => rw [hr] at h; cases h
    | ok message =>
      rw [hr] at h
      rw [call_answered_ok hr]
      obtain ⟨replies, same⟩ := walkRows_ok h
      refine ⟨fun r hrow => ?_, same⟩
      rcases List.mem_cons.mp hrow with rfl | hrow
      · exact replies_of_call hr
      · exact replies r hrow

theorem walkRows_of_replies (haptic : Bool) : ∀ {rows : List Nat} (c : Controls),
    (∀ row ∈ rows, l.Replies (cidRequest index row)) → ∃ walked, l.walkRows index haptic c rows = .ok walked
  | [], c, _ => ⟨c, rfl⟩
  | row :: rows, c, h => by
    obtain ⟨message, hr, _⟩ := call_of_replies (h row (by simp))
    simp only [walkRows, hr]
    exact walkRows_of_replies haptic _ fun r hrow => h r (List.mem_cons_of_mem _ hrow)

/-- The control walk's requests. -/
def ControlReplies (l : Link) (index : UInt8) : Prop :=
  l.Replies (zeroRequest index) ∧
    ∀ count, l.answer (zeroRequest index) = .reply count →
      ∀ row ∈ List.range (count.byte 0).toNat, l.Replies (cidRequest index row)

theorem walkControls_eq {count : Message} (h : l.call (zeroRequest index) = .ok count) (haptic : Bool) :
    l.walkControls index haptic = l.walkRows index haptic {} (List.range (count.byte 0).toNat) := by
  unfold walkControls
  rw [h]
  rfl

theorem walkControls_ok {haptic : Bool} {walked : Controls} (h : l.walkControls index haptic = .ok walked) :
    l.ControlReplies index ∧ l.answered.walkControls index haptic = .ok walked := by
  cases hc : l.call (zeroRequest index) with
  | error error =>
    unfold walkControls at h
    rw [hc] at h
    cases h
  | ok count =>
    rw [walkControls_eq hc] at h
    rw [walkControls_eq (call_answered_ok hc)]
    obtain ⟨replies, same⟩ := walkRows_ok h
    refine ⟨⟨replies_of_call hc, fun other reply row hrow => replies row ?_⟩, same⟩
    rw [(call_eq_ok.mp hc).2] at reply
    cases reply
    exact hrow

theorem walkControls_of_replies (haptic : Bool) (h : l.ControlReplies index) :
    ∃ walked, l.walkControls index haptic = .ok walked := by
  obtain ⟨count, hc, reply⟩ := call_of_replies h.1
  rw [walkControls_eq hc]
  exact walkRows_of_replies haptic {} (h.2 count reply)

theorem probeControls_ok (h : l.probeControls t caps = .ok read) :
    (∀ index, t.getFeature 0x1b04 0 = some index → l.ControlReplies index) ∧
      l.answered.probeControls t caps = .ok read := by
  unfold probeControls at h ⊢
  cases hf : t.getFeature 0x1b04 0 with
  | none => exact ⟨by simp, by simpa [hf] using h⟩
  | some index =>
    simp only [hf] at h ⊢
    cases hw : l.walkControls index t.probesHapticControls with
    | error error => simp [hw] at h
    | ok walked =>
      obtain ⟨replies, same⟩ := walkControls_ok hw
      simp only [hw] at h
      simp only [same]
      refine ⟨fun i hi => ?_, h⟩
      cases hi
      exact replies

theorem probeControls_of_replies (caps : Capabilities)
    (h : ∀ index, t.getFeature 0x1b04 0 = some index → l.ControlReplies index) :
    ∃ read, l.probeControls t caps = .ok read := by
  unfold probeControls
  cases hf : t.getFeature 0x1b04 0 with
  | none => exact ⟨caps, rfl⟩
  | some index =>
    obtain ⟨walked, hw⟩ := walkControls_of_replies t.probesHapticControls (h index hf)
    simp only [hw]
    exact ⟨_, rfl⟩

/-- The request for the battery's capability. -/
def batteryRequest : Option BatteryProbe → Option Request
  | some (.unified index _) => some (zeroRequest index)
  | some (.legacy index _) => some (firstRequest index)
  | _ => none

theorem resolveBatteryCapability_known (l : Link) (probe : Option BatteryProbe) :
    (l.resolveBatteryCapability probe).2 = false ↔ ∀ r, batteryRequest probe = some r → l.Replies r := by
  rcases probe with _ | _ | _ | _ | _ | _ | _
  · simp [resolveBatteryCapability, batteryRequest]
  · rename_i index charge
    rcases call_cases l (zeroRequest index) with ⟨message, hr, replies⟩ | ⟨error, hr, missing⟩
    · simp [resolveBatteryCapability, batteryRequest, hr, replies]
    · simp [resolveBatteryCapability, batteryRequest, hr, missing]
  · rename_i index mileage
    rcases call_cases l (firstRequest index) with ⟨message, hr, replies⟩ | ⟨error, hr, missing⟩
    · simp [resolveBatteryCapability, batteryRequest, hr, replies]
    · simp [resolveBatteryCapability, batteryRequest, hr, missing]
  all_goals simp [resolveBatteryCapability, batteryRequest]

/-- **The requests that every memoized set has a reply to**, of the reads whose failure the probe reports. -/
structure ReportedReads (l : Link) (t : FeatureTable) : Prop where
  osLayout : t.deriveCapabilities.osLayout = true →
    ∀ index, t.getFeature 0x4531 1 = some index → l.Replies (zeroRequest index)
  forceSensing : t.deriveCapabilities.forceSensing = true →
    ∀ index, t.getFeature 0x19c0 0 = some index → l.ForceAnswers index
  controls : ∀ index, t.getFeature 0x1b04 0 = some index → l.ControlReplies index

theorem probeOsLayout_force (h : l.probeOsLayout t caps = .ok read) : read.forceSensing = caps.forceSensing := by
  unfold probeOsLayout at h
  split at h
  · split at h
    · split at h
      · cases h; rfl
      · cases h
    · cases h; rfl
  · cases h; rfl

theorem probeReported_ok (os : caps.osLayout = t.deriveCapabilities.osLayout)
    (force : caps.forceSensing = t.deriveCapabilities.forceSensing) :
    (l.probeReported t caps).2 = .ok () ↔ l.ReportedReads t := by
  unfold probeReported
  constructor
  · intro h
    cases ho : l.probeOsLayout t caps with
    | error _ => simp [ho] at h
    | ok read =>
      simp only [ho] at h
      cases hc : l.probeControls t (l.probeForce t read).1 with
      | error _ => simp [hc] at h
      | ok walked =>
        simp only [hc] at h
        exact
          { osLayout := os ▸ (probeOsLayout_ok ho).1
            forceSensing := by
              rw [← force, ← probeOsLayout_force ho]
              exact (probeForce_ok h).1
            controls := (probeControls_ok hc).1 }
  · intro reads
    obtain ⟨read, ho⟩ := probeOsLayout_of_replies caps (os ▸ reads.osLayout)
    obtain ⟨walked, hc⟩ := probeControls_of_replies (l.probeForce t read).1 reads.controls
    simp only [ho, hc]
    exact probeForce_of_answers (by rw [probeOsLayout_force ho, force]; exact reads.forceSensing)

/-- **Reads none of which failed read what the device says.** -/
theorem probeReported_answered (h : (l.probeReported t caps).2 = .ok ()) :
    l.answered.probeReported t caps = l.probeReported t caps := by
  unfold probeReported at h ⊢
  cases ho : l.probeOsLayout t caps with
  | error _ => simp [ho] at h
  | ok read =>
    simp only [ho] at h
    cases hc : l.probeControls t (l.probeForce t read).1 with
    | error _ => simp [hc] at h
    | ok walked =>
      simp only [hc] at h
      simp only [(probeOsLayout_ok ho).2, (probeForce_ok h).2, (probeControls_ok hc).2, hc]

end Link

end Probe
end OpenLogi
