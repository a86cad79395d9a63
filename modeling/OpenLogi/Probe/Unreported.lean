import OpenLogi.Probe.Answered
/-!
# Unreported — the two reads whose failure the probe does not report

The wheel's capabilities and the gesture table are read with a default of no.  When their reply is lost and would have
said yes, the set lacks scroll inversion or the horizontal wheel, and the probe holds it for complete.
-/
namespace OpenLogi
namespace Probe

open Agent (Capabilities)

namespace Link

/-! ## The gesture table -/

/-- What one page of the gesture table says. -/
def pageScan (l : Link) (index : UInt8) (page : Nat) : Option DescriptorScan :=
  match l.answer (pageRequest index page) with
  | .reply message => some (scanPage message)
  | .error _ => none
  | .unknownError => none

variable {l : Link} {index : UInt8} {t : FeatureTable}

theorem call_page_ok {page : Nat} {message : Message} (h : l.call (pageRequest index page) = .ok message) :
    l.lost (pageRequest index page) 0 = false ∧ l.pageScan index page = some (scanPage message) := by
  obtain ⟨kept, reply⟩ := call_eq_ok.mp h
  exact ⟨kept, by simp [pageScan, reply]⟩

theorem call_of_page {page : Nat} {scan : DescriptorScan} (kept : l.lost (pageRequest index page) 0 = false)
    (h : l.pageScan index page = some scan) :
    ∃ message, l.call (pageRequest index page) = .ok message ∧ scanPage message = scan := by
  unfold pageScan at h
  cases ha : l.answer (pageRequest index page) with
  | reply message =>
    rw [ha] at h
    exact ⟨message, call_eq_ok.mpr ⟨kept, ha⟩, by simpa using h⟩
  | error error => simp [ha] at h
  | unknownError => simp [ha] at h

/-- The pages up to the one that lists the thumbwheel's gesture. -/
structure GestureAt (l : Link) (index : UInt8) (pages before : List Nat) (found : Nat) : Prop where
  split : ∃ after, pages = before ++ found :: after
  next : ∀ page ∈ before, l.pageScan index page = some .next
  thumbwheel : l.pageScan index found = some .thumbwheel

theorem hasThumbwheel_found : ∀ {pages : List Nat},
    l.hasThumbwheel index pages = .ok true →
      ∃ before found, l.GestureAt index pages before found ∧
        ∀ page ∈ before ++ [found], l.lost (pageRequest index page) 0 = false
  | [], h => by cases h
  | page :: pages, h => by
    unfold hasThumbwheel at h
    cases hr : l.call (pageRequest index page) with
    | error error => rw [hr] at h; cases h
    | ok message =>
      obtain ⟨kept, scan⟩ := call_page_ok hr
      simp only [hr] at h
      cases hs : scanPage message with
      | thumbwheel =>
        rw [hs] at scan
        exact ⟨[], page, ⟨⟨pages, rfl⟩, by simp, scan⟩, by simpa using kept⟩
      | fin => simp [hs] at h
      | next =>
        rw [hs] at scan
        simp only [hs] at h
        obtain ⟨before, found, ⟨⟨after, split⟩, next, thumb⟩, all⟩ := hasThumbwheel_found h
        refine ⟨page :: before, found, ⟨⟨after, by simp [split]⟩, ?_, thumb⟩, ?_⟩
        · intro p hp
          rcases List.mem_cons.mp hp with rfl | hp
          · exact scan
          · exact next p hp
        · intro p hp
          rcases List.mem_cons.mp hp with rfl | hp
          · exact kept
          · exact all p hp

/-- A walk to the gesture's page gets there unless one of the pages is lost. -/
theorem hasThumbwheel_eq_true {found : Nat} : ∀ {before pages : List Nat},
    l.GestureAt index pages before found →
      (l.hasThumbwheel index pages = .ok true ↔
        ∀ page ∈ before ++ [found], l.lost (pageRequest index page) 0 = false)
  | [], pages, ⟨⟨after, split⟩, _, thumb⟩ => by
    subst split
    unfold hasThumbwheel
    constructor
    · intro h
      cases hr : l.call (pageRequest index found) with
      | error error => simp [hr] at h
      | ok message => simpa using (call_page_ok hr).1
    · intro kept
      obtain ⟨message, hr, scan⟩ := call_of_page (kept found (by simp)) thumb
      simp [hr, scan]
  | page :: before, pages, ⟨⟨after, split⟩, next, thumb⟩ => by
    subst split
    have later : l.GestureAt index (before ++ found :: after) before found :=
      ⟨⟨after, rfl⟩, fun p hp => next p (List.mem_cons_of_mem _ hp), thumb⟩
    have rest := hasThumbwheel_eq_true later
    rw [List.cons_append]
    unfold hasThumbwheel
    constructor
    · intro h p hp
      cases hr : l.call (pageRequest index page) with
      | error error => simp [hr] at h
      | ok message =>
        obtain ⟨kept, scan⟩ := call_page_ok hr
        rw [next page (by simp)] at scan
        simp only [hr, ← Option.some.inj scan] at h
        rcases List.mem_cons.mp hp with rfl | hp
        · exact kept
        · exact rest.mp h p hp
    · intro kept
      obtain ⟨message, hr, scan⟩ := call_of_page (kept page (by simp)) (next page (by simp))
      simp only [hr, scan]
      exact rest.mpr fun p hp => kept p (List.mem_cons_of_mem _ hp)

/-! ## What a lost reply hides -/

/-- **A capability that a lost reply hides**: the wheel would have said that it can invert, or the gesture table that it
has the thumbwheel's gesture. -/
inductive HiddenRead (l : Link) (t : FeatureTable) : Prop where
  | wheel (index : UInt8) (message : Message) : t.getFeature 0x2121 0 = some index →
      l.lost (zeroRequest index) 0 = true → l.answer (zeroRequest index) = .reply message → hasInvert message = true →
      HiddenRead l t
  | gestures (index : UInt8) (before : List Nat) (found page : Nat) : t.deriveCapabilities.thumbwheel = false →
      t.getFeature 0x6501 0 = some index → l.GestureAt index (List.range maxDescriptorPages) before found →
      page ∈ before ++ [found] → l.lost (pageRequest index page) 0 = true → HiddenRead l t

/-- The set before the reads whose failure is reported. -/
def unreported (l : Link) (t : FeatureTable) : Capabilities :=
  l.probeThumbwheel t (l.probeScrollInversion t t.deriveCapabilities)

/-- The wheel's read. -/
def wheelInverts (l : Link) (t : FeatureTable) : Bool :=
  match t.getFeature 0x2121 0 with
  | some index =>
    match l.call (zeroRequest index) with
    | .ok message => hasInvert message
    | .error _ => false
  | none => false

/-- The gesture table's read, where the table of features does not already list the wheel. -/
def listsThumbwheel (l : Link) (t : FeatureTable) : Bool :=
  t.deriveCapabilities.thumbwheel ||
    match t.getFeature 0x6501 0 with
    | some index => decide (l.hasThumbwheel index (List.range maxDescriptorPages) = .ok true)
    | none => false

theorem unreported_eq (l : Link) (t : FeatureTable) :
    l.unreported t =
      { t.deriveCapabilities with
        scrollInversion := l.wheelInverts t
        thumbwheel := l.listsThumbwheel t } := by
  have scroll : l.probeScrollInversion t t.deriveCapabilities =
      { t.deriveCapabilities with scrollInversion := l.wheelInverts t } := by
    unfold probeScrollInversion wheelInverts
    cases t.getFeature 0x2121 0 with
    | none => rfl
    | some index => rfl
  unfold unreported
  rw [scroll]
  unfold probeThumbwheel listsThumbwheel
  dsimp only
  cases has : t.deriveCapabilities.thumbwheel with
  | true => simp
  | false =>
    rw [if_neg (by simp)]
    cases t.getFeature 0x6501 0 with
    | none => simp
    | some index =>
      dsimp only
      cases l.hasThumbwheel index (List.range maxDescriptorPages) with
      | error error => simp
      | ok found => cases found <;> simp

theorem wheelInverts_hidden (h : l.answered.wheelInverts t ≠ l.wheelInverts t) :
    l.HiddenRead t := by
  unfold wheelInverts at h
  cases hf : t.getFeature 0x2121 0 with
  | none => simp [hf] at h
  | some index =>
    simp only [hf] at h
    cases hl : l.lost (zeroRequest index) 0 with
    | false =>
      refine absurd ?_ h
      have same : l.answered.call (zeroRequest index) = l.call (zeroRequest index) := by simp [call, ask, hl]
      rw [same]
    | true =>
      have lost : l.call (zeroRequest index) = .error .channel := by simp [call, ask, hl]
      cases ha : l.answered.call (zeroRequest index) with
      | error error => simp [lost, ha] at h
      | ok message =>
        simp only [lost, ha, ne_eq, Bool.not_eq_false] at h
        exact .wheel index message hf hl (call_eq_ok.mp ha).2 h

theorem listsThumbwheel_hidden (h : l.answered.listsThumbwheel t ≠ l.listsThumbwheel t) :
    l.HiddenRead t := by
  unfold listsThumbwheel at h
  cases has : t.deriveCapabilities.thumbwheel with
  | true => simp [has] at h
  | false =>
    cases hf : t.getFeature 0x6501 0 with
    | none => simp [hf] at h
    | some index =>
      simp only [has, hf, Bool.false_or, ne_eq, decide_eq_decide] at h
      rcases Classical.em (l.answered.hasThumbwheel index (List.range maxDescriptorPages) = .ok true) with yes | no
      · obtain ⟨before, found, at_, _⟩ := hasThumbwheel_found yes
        have here : l.GestureAt index (List.range maxDescriptorPages) before found :=
          ⟨at_.split, at_.next, at_.thumbwheel⟩
        have lost : ¬ ∀ page ∈ before ++ [found], l.lost (pageRequest index page) 0 = false := fun kept =>
          h (iff_of_true yes ((hasThumbwheel_eq_true here).mpr kept))
        simp only [not_forall, Bool.not_eq_false] at lost
        obtain ⟨page, hp, hl⟩ := lost
        exact .gestures index before found page has hf here hp hl
      · refine absurd (iff_of_false no fun yes => no ?_) h
        obtain ⟨before, found, at_, _⟩ := hasThumbwheel_found yes
        exact (hasThumbwheel_eq_true (l := l.answered) ⟨at_.split, at_.next, at_.thumbwheel⟩).mpr fun _ _ => rfl

theorem hidden_changes (h : l.HiddenRead t) :
    (l.answered.wheelInverts t = true ∧ l.wheelInverts t = false) ∨
      (l.answered.listsThumbwheel t = true ∧ l.listsThumbwheel t = false) := by
  cases h with
  | wheel index message hf lost reply inverts =>
    left
    have ha : l.answered.call (zeroRequest index) = .ok message := call_eq_ok.mpr ⟨rfl, reply⟩
    have hl : l.call (zeroRequest index) = .error .channel := by simp [call, ask, lost]
    constructor
    · simp only [wheelInverts, hf, ha, inverts]
    · simp only [wheelInverts, hf, hl]
  | gestures index before found page has hf at_ hp lost =>
    right
    have yes := (hasThumbwheel_eq_true (l := l.answered) ⟨at_.split, at_.next, at_.thumbwheel⟩).mpr fun _ _ => rfl
    have no : l.hasThumbwheel index (List.range maxDescriptorPages) ≠ .ok true := fun found => by
      have kept := (hasThumbwheel_eq_true at_).mp found page hp
      rw [lost] at kept
      cases kept
    constructor
    · simp only [listsThumbwheel, hf, yes, decide_true, Bool.or_true]
    · simp only [listsThumbwheel, has, hf, no, decide_false, Bool.or_false]

theorem unreported_of_not_hidden (h : ¬ l.HiddenRead t) :
    l.unreported t = l.answered.unreported t := by
  have wheel : l.answered.wheelInverts t = l.wheelInverts t := by
    by_contra differs
    exact h (wheelInverts_hidden differs)
  have gestures : l.answered.listsThumbwheel t = l.listsThumbwheel t := by
    by_contra differs
    exact h (listsThumbwheel_hidden differs)
  rw [unreported_eq, unreported_eq, wheel, gestures]

/-! ## The reported reads leave the two alone -/

theorem probeReported_unreported (l : Link) (t : FeatureTable) (caps : Capabilities) :
    (l.probeReported t caps).1.scrollInversion = caps.scrollInversion ∧
      (l.probeReported t caps).1.thumbwheel = caps.thumbwheel := by
  have force : ∀ c : Capabilities, (l.probeForce t c).1.scrollInversion = c.scrollInversion ∧
      (l.probeForce t c).1.thumbwheel = c.thumbwheel := by
    intro c
    unfold probeForce
    split
    · split
      · split <;> exact ⟨rfl, rfl⟩
      · exact ⟨rfl, rfl⟩
    · exact ⟨rfl, rfl⟩
  have layout : ∀ read, l.probeOsLayout t caps = .ok read →
      read.scrollInversion = caps.scrollInversion ∧ read.thumbwheel = caps.thumbwheel := by
    intro read h
    unfold probeOsLayout at h
    split at h
    · split at h
      · split at h
        · cases h; exact ⟨rfl, rfl⟩
        · cases h
      · cases h; exact ⟨rfl, rfl⟩
    · cases h; exact ⟨rfl, rfl⟩
  have walk : ∀ c read, l.probeControls t c = .ok read →
      read.scrollInversion = c.scrollInversion ∧ read.thumbwheel = c.thumbwheel := by
    intro c read h
    unfold probeControls at h
    split at h
    · split at h
      · cases h; exact ⟨rfl, rfl⟩
      · cases h
    · cases h; exact ⟨rfl, rfl⟩
  unfold probeReported
  cases ho : l.probeOsLayout t caps with
  | error _ => exact ⟨rfl, rfl⟩
  | ok read =>
    have first := layout read ho
    have second := force read
    dsimp only
    cases hc : l.probeControls t (l.probeForce t read).1 with
    | error _ => exact ⟨second.1.trans first.1, second.2.trans first.2⟩
    | ok walked =>
      have third := walk _ _ hc
      exact ⟨third.1.trans (second.1.trans first.1), third.2.trans (second.2.trans first.2)⟩

end Link

end Probe
end OpenLogi
