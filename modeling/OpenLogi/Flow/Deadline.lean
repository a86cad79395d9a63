import OpenLogi.Flow.Pointer
/-!
# Deadline — when a resting cursor is sampled again

A cursor at rest makes no motion, so the pointer thread also samples at the deadline of the contact in progress.  The
deadline is computed apart from the update that decides the crossing; both say the same, except that its sums stop at
the last instant a `Duration` can hold.
-/
namespace OpenLogi
namespace Flow

open OpenLogi.Scroll (checkedSub)

variable {F : Type}

namespace EdgeDetector

/-- The detectors a layout change or a sample leads to. -/
inductive Reachable [DesktopF64 F] : EdgeDetector F → Prop where
  | new (edges : ExposedEdges F) (armedSides : ArmedSides) (params : EdgeDetectorParams F) :
      Reachable (new edges armedSides params)
  | setEdges {d : EdgeDetector F} (edges : ExposedEdges F) : Reachable d → Reachable (d.setEdges edges)
  | update {d : EdgeDetector F} (position : DesktopPoint F) (timestamp : Nat) :
      Reachable d → Reachable (d.update position timestamp).2

/-- The segment of a contact touches the position sampled last. -/
def Touching [DesktopF64 F] (d : EdgeDetector F) : Prop :=
  ∀ contact, d.contact = some contact → ∃ previous, d.previous = some previous ∧
    ∃ candidate ∈ candidates d.edges previous.position d.params.edgeTolerance d.armedSides,
      candidate.segmentIndex = contact.segmentIndex

/-- The contact has dwelt, and the cooldown is over. -/
def Due (d : EdgeDetector F) (contact : Contact F) (timestamp : Nat) : Prop :=
  contact.startedAt + d.params.dwellTime ≤ timestamp ∧
    ∀ lastCrossing, d.lastCrossing = some lastCrossing → lastCrossing + d.params.cooldown ≤ timestamp

/-- The instant is before the last one a `Duration` can hold, or no sum of the deadline exceeds that one. -/
def Fits (d : EdgeDetector F) (timestamp : Nat) : Prop :=
  timestamp < Duration.max ∨ ∀ contact, d.contact = some contact → d.Due contact Duration.max

/-! ## What the update selects -/

theorem foldl_min_mem {α : Type} (cmp : α → α → Ordering) (l : List α) (a : α) :
    l.foldl (fun best b => if cmp b best = .lt then b else best) a ∈ a :: l := by
  induction l generalizing a with
  | nil => exact List.mem_cons_self
  | cons b l ih =>
    rw [List.foldl_cons]
    have hmem := ih (if cmp b a = .lt then b else a)
    rcases List.mem_cons.1 hmem with heq | hmem
    · rw [heq]
      split
      · exact List.mem_cons_of_mem _ List.mem_cons_self
      · exact List.mem_cons_self
    · exact List.mem_cons_of_mem _ (List.mem_cons_of_mem _ hmem)

theorem mem_of_minBy {α : Type} {cmp : α → α → Ordering} {l : List α} {a : α}
    (h : minBy cmp l = some a) : a ∈ l := by
  cases l with
  | nil => cases h
  | cons b l =>
    cases h
    exact foldl_min_mem cmp l b

theorem mem_of_selectCandidate [DesktopF64 F] {found : List (Candidate F)} {preferred : Option Nat}
    {velocity : Velocity F} {candidate : Candidate F} (h : selectCandidate found preferred velocity = some candidate) :
    candidate ∈ found := by
  unfold selectCandidate at h
  split at h
  · rename_i hpreferred
    cases h
    obtain ⟨index, -, hfind⟩ := Option.bind_eq_some_iff.1 hpreferred
    exact List.mem_of_find?_eq_some hfind
  · exact mem_of_minBy h

/-- The segment of the contact in progress stays selected while it is touched. -/
theorem selectCandidate_preferred [DesktopF64 F] {found : List (Candidate F)} {candidate : Candidate F}
    (h : candidate ∈ found) (velocity : Velocity F) :
    ∃ selected, selectCandidate found (some candidate.segmentIndex) velocity = some selected ∧
      selected.segmentIndex = candidate.segmentIndex := by
  unfold selectCandidate
  rw [Option.bind_some]
  cases hfind : found.find? fun other => other.segmentIndex = candidate.segmentIndex with
  | some selected => exact ⟨selected, rfl, by simpa using List.find?_some hfind⟩
  | none => exact absurd (decide_eq_true rfl) (List.find?_eq_none.1 hfind candidate h)

/-! ## What one sample does to the contact -/

variable {d : EdgeDetector F} {contact : Contact F} {position : DesktopPoint F} {timestamp : Nat}

theorem any_checkedSub {instant window : Nat} :
    ((checkedSub timestamp instant).any fun elapsed => window ≤ elapsed) = true ↔ instant + window ≤ timestamp := by
  unfold checkedSub
  split
  · rw [Option.any_some, decide_eq_true_eq]
    omega
  · simp only [Option.any_none, Bool.false_eq_true, false_iff]
    omega

theorem due_iff (d : EdgeDetector F) (contact : Contact F) (timestamp : Nat) : d.Due contact timestamp ↔
    ((checkedSub timestamp contact.startedAt).any fun elapsed => d.params.dwellTime ≤ elapsed) = true ∧
      d.cooldownFinished timestamp = true := by
  rw [any_checkedSub]
  refine and_congr_right fun _ => ?_
  unfold cooldownFinished
  cases d.lastCrossing with
  | none => exact ⟨fun _ => rfl, fun _ lastCrossing hlast => by cases hlast⟩
  | some last =>
    refine Iff.trans ⟨fun h => h last rfl, fun h lastCrossing hlast => ?_⟩ any_checkedSub.symm
    cases hlast
    exact h

variable [DesktopF64 F]

/-- A contact that a sample leaves is not due yet, and its segment is touched. -/
theorem touch_contact {velocity : Velocity F} (h : (d.touch velocity position timestamp).2.contact = some contact) :
    (d.touch velocity position timestamp).2.lastCrossing = d.lastCrossing ∧ ¬d.Due contact timestamp ∧
      ∃ candidate ∈ candidates d.edges position d.params.edgeTolerance d.armedSides,
        candidate.segmentIndex = contact.segmentIndex := by
  revert h
  unfold touch
  dsimp only
  cases hselect : selectCandidate (candidates d.edges position d.params.edgeTolerance d.armedSides)
      (d.contact.map Contact.segmentIndex) velocity with
  | none =>
    intro h
    cases h
  | some candidate =>
    dsimp only
    split
    · intro h
      cases h
    · rename_i hearly
      intro h
      cases h
      refine ⟨rfl, fun hdue => hearly ?_, candidate, mem_of_selectCandidate hselect, ?_⟩
      · obtain ⟨hdwell, hcooldown⟩ := (due_iff ..).1 hdue
        rw [hcooldown, hdwell, Bool.or_true]
        rfl
      · cases hkept : d.contact.filter fun contact => contact.segmentIndex = candidate.segmentIndex with
        | none => rfl
        | some kept => exact (of_decide_eq_true (Option.filter_eq_some_iff.1 hkept).2).symm

/-- A sample of an unlatched detector touches what it touches. -/
theorem update_eq_touch (position : DesktopPoint F) (timestamp : Nat) (h : d.latched = false) :
    ∃ velocity, d.update position timestamp =
    { d with previous := some ⟨position, timestamp⟩ }.touch velocity position timestamp := by
  unfold update
  dsimp only
  rw [h]
  exact ⟨_, rfl⟩

theorem update_contact (h : (d.update position timestamp).2.contact = some contact) :
    d.latched = false ∧ (d.update position timestamp).2.lastCrossing = d.lastCrossing ∧ ¬d.Due contact timestamp ∧
      ∃ candidate ∈ candidates d.edges position d.params.edgeTolerance d.armedSides,
        candidate.segmentIndex = contact.segmentIndex := by
  cases hlatched : d.latched with
  | true =>
    unfold update at h
    dsimp only at h
    rw [hlatched] at h
    cases h
  | false =>
    obtain ⟨velocity, hupdate⟩ := update_eq_touch position timestamp hlatched
    rw [hupdate] at h ⊢
    exact ⟨rfl, touch_contact h⟩

/-- What a sample keeps, and that it is the one sampled last. -/
theorem update_watch (d : EdgeDetector F) (position : DesktopPoint F) (timestamp : Nat) :
    (d.update position timestamp).2.edges = d.edges ∧ (d.update position timestamp).2.armedSides = d.armedSides ∧
      (d.update position timestamp).2.previous = some ⟨position, timestamp⟩ := by
  unfold update
  dsimp only
  split
  · exact ⟨rfl, rfl, rfl⟩
  · unfold touch
    dsimp only
    split
    · exact ⟨rfl, rfl, rfl⟩
    · split <;> exact ⟨rfl, rfl, rfl⟩

theorem touching_update (d : EdgeDetector F) (position : DesktopPoint F) (timestamp : Nat) :
    (d.update position timestamp).2.Touching := by
  intro contact hcontact
  obtain ⟨hedges, hsides, hprevious⟩ := d.update_watch position timestamp
  obtain ⟨-, -, -, htouched⟩ := update_contact hcontact
  rw [hedges, hsides, hprevious, d.update_frame]
  exact ⟨_, rfl, htouched⟩

theorem Reachable.touching (h : d.Reachable) : d.Touching := by
  induction h with
  | new edges armedSides params =>
    intro contact hcontact
    cases hcontact
  | setEdges edges _ _ =>
    intro contact hcontact
    cases hcontact
  | @update d position timestamp _ _ => exact touching_update d position timestamp

/-! ## The deadline -/

omit [DesktopF64 F] in
/-- Up to where its sums fit, the deadline is the first instant the contact is due. -/
theorem deadline_le_iff {deadline : Nat} (h : d.dwellDeadline = some deadline) (hfits : d.Fits timestamp) :
    ∃ contact, d.latched = false ∧ d.contact = some contact ∧ (deadline ≤ timestamp ↔ d.Due contact timestamp) := by
  unfold dwellDeadline at h
  cases hlatched : d.latched with
  | true =>
    rw [hlatched] at h
    cases h
  | false =>
    rw [hlatched, if_neg Bool.false_ne_true, Option.map_eq_some_iff] at h
    obtain ⟨contact, hcontact, rfl⟩ := h
    refine ⟨contact, rfl, hcontact, ?_⟩
    unfold Fits at hfits
    rw [hcontact] at hfits
    have hfits := hfits.imp_right fun h => h contact rfl
    unfold Due Duration.saturatingAdd at *
    cases hlast : d.lastCrossing with
    | none =>
      rw [hlast] at hfits
      simp only [reduceCtorEq, false_implies, implies_true, and_true] at hfits ⊢
      omega
    | some last =>
      rw [hlast] at hfits
      simp only [Option.some.injEq, forall_eq'] at hfits ⊢
      omega

omit [DesktopF64 F] in
theorem fits_zero (d : EdgeDetector F) : d.Fits 0 := .inl (by decide)

/-- The cursor at rest crosses at a sample exactly when the contact is due. -/
theorem rest_crosses_iff (h : d.Touching) (hlatched : d.latched = false) (hcontact : d.contact = some contact) :
    ∃ previous, d.previous = some previous ∧ ∀ timestamp,
      (d.update previous.position timestamp).1.isSome = true ↔ d.Due contact timestamp := by
  obtain ⟨previous, hprevious, candidate, hfound, hindex⟩ := h contact hcontact
  refine ⟨previous, hprevious, fun timestamp => ?_⟩
  obtain ⟨velocity, hupdate⟩ := update_eq_touch previous.position timestamp hlatched
  obtain ⟨selected, hselect, hsame⟩ := selectCandidate_preferred hfound velocity
  rw [hupdate, due_iff]
  unfold touch
  dsimp only
  rw [hcontact, Option.map_some, ← hindex, hselect]
  dsimp only
  rw [Option.filter_some, hsame, hindex, decide_eq_true rfl, if_pos rfl, Option.getD_some]
  -- a contact kept is no fast arrival
  rw [Option.isNone_some, Bool.false_and, Bool.false_or]
  split
  · rename_i hdue
    exact ⟨fun _ => (Bool.and_eq_true_iff.1 hdue).symm, fun _ => rfl⟩
  · rename_i hearly
    refine ⟨fun hcrossing => ?_, fun hdue => absurd (Bool.and_eq_true_iff.2 hdue.symm) hearly⟩
    cases hcrossing

/-- A deadline left by a sample lies after it. -/
theorem lt_deadline_update {next : Nat} (hfits : (d.update position timestamp).2.Fits timestamp)
    (h : (d.update position timestamp).2.dwellDeadline = some next) : timestamp < next := by
  obtain ⟨contact, -, hcontact, hiff⟩ := deadline_le_iff h hfits
  obtain ⟨-, hlast, hearly, -⟩ := update_contact hcontact
  refine Nat.lt_of_not_le fun hle => hearly ?_
  have hdue := hiff.1 hle
  unfold Due at hdue ⊢
  rw [hlast, d.update_frame] at hdue
  exact hdue

/-- **The dwell deadline is exact**: of the samples of the cursor at rest those from it on report the crossing, and no
sample leaves a deadline that has passed, up to the last instant a `Duration` can hold, and there too unless a sum of
the deadline exceeds it. -/
theorem dwell_deadline_exact (h : d.Reachable) {deadline : Nat} (hdeadline : d.dwellDeadline = some deadline) :
    ∃ previous, d.previous = some previous ∧
      (∀ timestamp, d.Fits timestamp →
        ((d.update previous.position timestamp).1.isSome = true ↔ deadline ≤ timestamp)) ∧
      ∀ position timestamp, (d.update position timestamp).2.Fits timestamp →
        ∀ next, (d.update position timestamp).2.dwellDeadline = some next → timestamp < next := by
  obtain ⟨contact, hlatched, hcontact, -⟩ := deadline_le_iff hdeadline (d.fits_zero)
  obtain ⟨previous, hprevious, hrest⟩ := rest_crosses_iff h.touching hlatched hcontact
  refine ⟨previous, hprevious, fun timestamp hfits => ?_, fun position timestamp hfits next => lt_deadline_update hfits⟩
  obtain ⟨other, -, hother, hiff⟩ := deadline_le_iff hdeadline hfits
  cases hcontact.symm.trans hother
  exact (hrest timestamp).trans hiff.symm

end EdgeDetector

/-! ## The last instant -/

attribute [local instance] axisRationals

/-- The cursor comes to rest on the right edge of the one display at an instant. -/
def restingDetector (timestamp : Nat) : EdgeDetector ℚ :=
  ((EdgeDetector.new (exposedEdges sampleDisplays) (.fromSides [.right]) .default).update ⟨199 / 2, 40⟩ timestamp).2

theorem restingDetector_reachable (timestamp : Nat) : (restingDetector timestamp).Reachable := .update _ _ (.new ..)

theorem dwell_deadline_exact_resting : ∃ previous, (restingDetector 0).previous = some previous ∧
    (∀ timestamp, (restingDetector 0).Fits timestamp →
      (((restingDetector 0).update previous.position timestamp).1.isSome = true ↔ 250 * millis ≤ timestamp)) ∧
    ∀ position timestamp, ((restingDetector 0).update position timestamp).2.Fits timestamp →
      ∀ next, ((restingDetector 0).update position timestamp).2.dwellDeadline = some next → timestamp < next :=
  EdgeDetector.dwell_deadline_exact (restingDetector_reachable 0) (by decide +kernel)

/-- A contact so late that its deadline is the last instant of all: a sample there reports nothing and leaves the same
deadline. -/
theorem last_deadline_missed : ¬ ∀ (d : EdgeDetector ℚ) (deadline : Nat), d.Reachable →
    d.dwellDeadline = some deadline → ∃ previous, d.previous = some previous ∧
      (∀ timestamp ≤ Duration.max, (d.update previous.position timestamp).1.isSome = true ↔ deadline ≤ timestamp) ∧
      ∀ position timestamp, deadline ≤ timestamp → timestamp ≤ Duration.max →
        ∀ next, (d.update position timestamp).2.dwellDeadline = some next → timestamp < next := by
  intro h
  obtain ⟨previous, -, -, hnext⟩ := h (restingDetector (Duration.max - 1)) Duration.max
    (restingDetector_reachable _) (by decide +kernel)
  have hspins : ((restingDetector (Duration.max - 1)).update ⟨199 / 2, 40⟩ Duration.max).2.dwellDeadline =
      some Duration.max := by decide +kernel
  exact absurd (hnext _ _ le_rfl le_rfl _ hspins) (lt_irrefl _)

end Flow
end OpenLogi
