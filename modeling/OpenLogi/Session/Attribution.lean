import OpenLogi.Session.Accum
/-!
# Attribution — which hold the raw motion belongs to

The `0x1b04` reports of a mouse with what an observer remembers beside them: the sources of the latest button report,
whether a raw sample came since one went down, and whether the hold committed a direction.
-/
namespace OpenLogi
namespace Session

open OpenLogi.Core Lib

inductive ControlEvent where
  | divertedButtons (cids : List UInt16) (now : Nat)
  | rawXy (dx dy : Int) (now later : Nat)
  deriving DecidableEq

def CapturedInput.gestured : CapturedInput → Option (ButtonId × GestureDirection)
  | .gesture button direction => some (button, direction)
  | .buttonDown _ => none
  | .buttonUp _ => none
  | .interrupted => none

/-- The gestures of what a report sends. -/
def gestures (sent : List CapturedInput) : List (ButtonId × GestureDirection) := sent.filterMap CapturedInput.gestured

namespace HoldState

def swipe : HoldState → Option SwipeAccumulator
  | .idle => none
  | .holding _ _ swipe _ _ => some swipe

/-- The source that owns the hold, and its button. -/
def holder : HoldState → Option (UInt16 × ButtonId)
  | .idle => none
  | .holding cid button _ _ _ => some (cid, button)

end HoldState

/-- An accumulator and what was observed of its reports. -/
structure Observed where
  accum : CaptureAccum := {}
  /-- The armed sources held in the latest button report. -/
  held : List (UInt16 × ButtonId) := []
  /-- No raw sample came since the held sources went from none to some. -/
  first : Bool := false
  /-- The source that owns the hold was held before it took it over. -/
  inherited : Bool := false
  /-- The hold committed a direction. -/
  committed : Bool := false

namespace Observed

variable (armed : ArmedControls)

/-- What a report sends, and the accumulator after it. -/
def report (w : Observed) : ControlEvent → List CapturedInput × CaptureAccum
  | .divertedButtons cids now => w.accum.onButtons armed cids now
  | .rawXy dx dy now later => w.accum.onRawXy dx dy now later

/-- No source in a report owns the hold. -/
def released (w : Observed) (cids : List UInt16) : Bool := w.accum.hold.holder.all fun holder => holder.1 ∉ cids

def observe (w : Observed) (event : ControlEvent) : Observed :=
  match event with
  | .divertedButtons cids _ =>
    let held := armed.held cids
    { accum := (w.report armed event).2
      held
      first := w.first || w.held.isEmpty && !held.isEmpty
      inherited := if w.released cids then held.head?.any fun p => p.1 ∈ w.held.map Prod.fst else w.inherited
      committed := if w.released cids then false else w.committed }
  | .rawXy _ _ _ _ =>
    { w with
      accum := (w.report armed event).2
      first := false
      committed := w.committed || !(w.report armed event).1.isEmpty }

/-- One report; none is refused. -/
def step (w : Observed) (event : ControlEvent) : Option Observed := some (w.observe armed event)

/-- A raw report adds to the swipe of the hold. -/
def Adds (w : Observed) (event : ControlEvent) : Prop :=
  (w.report armed event).2.hold.swipe ≠ w.accum.hold.swipe ∨ (w.report armed event).1 ≠ []

/-- A raw report is attributed: it adds to the swipe of the only source that is held, never as the first one, and is no
click.  A button report clicks exactly when it ends a hold that committed nothing. -/
def Attributed (w : Observed) (event : ControlEvent) : Prop :=
  match event with
  | .rawXy _ _ _ _ =>
    (w.Adds armed event → ∃ source, w.held = [source] ∧ w.accum.hold.holder = some source ∧
      (w.report armed event).2.hold.holder = some source ∧
      ∀ gesture ∈ gestures (w.report armed event).1, gesture.1 = source.2) ∧
    (w.first = true → ¬w.Adds armed event) ∧
    ∀ gesture ∈ gestures (w.report armed event).1, gesture.2 ≠ .click
  | .divertedButtons cids _ =>
    gestures (w.report armed event).1 =
      (w.accum.hold.holder.filter fun holder => holder.1 ∉ cids && !w.committed).toList.map fun holder =>
        (holder.2, .click)

/-- The first sample does not come to a lone source that was held beside the one it took the hold over from. -/
def Timely (w : Observed) : ControlEvent → Prop
  | .rawXy _ _ _ _ => ¬(w.first = true ∧ w.inherited = true ∧ w.held.length = 1)
  | .divertedButtons _ _ => True

/-! ## What a report sends -/

theorem gestures_append (xs ys : List CapturedInput) : gestures (xs ++ ys) = gestures xs ++ gestures ys :=
  List.filterMap_append

theorem gestures_eq_nil {sent : List CapturedInput} (h : ∀ input ∈ sent, input.gestured = none) : gestures sent = [] :=
  List.filterMap_eq_nil_iff.2 h

theorem gestured_edge (was now : Bool) (button : ButtonId) : ∀ input ∈ edge was now button, input.gestured = none := by
  intro input hinput
  unfold edge at hinput
  split at hinput
  · rw [List.mem_singleton.1 hinput]
    rfl
  · split at hinput
    · rw [List.mem_singleton.1 hinput]
      rfl
    · cases hinput

theorem gestured_gestureEdges (accum : CaptureAccum) (held gestureButtonCids : List (UInt16 × ButtonId)) :
    ∀ input ∈ accum.gestureEdges held gestureButtonCids, input.gestured = none := by
  intro input hinput
  rcases List.mem_append.1 hinput with h | h
  · obtain ⟨cid, -, hcid⟩ := List.mem_filterMap.1 h
    split at hcid
    · cases hcid
    · obtain ⟨button, -, rfl⟩ := Option.map_eq_some_iff.1 hcid
      rfl
  · obtain ⟨source, -, rfl⟩ := List.mem_map.1 h
    rfl

theorem gestured_pressButtons (cids : List UInt16) : ∀ (set : List (UInt16 × ButtonId)) (down : List UInt16),
    ∀ input ∈ (CaptureAccum.pressButtons cids set down).1, input.gestured = none
  | [], _, _, h => by cases h
  | (cid, button) :: set, down, input, h => by
    obtain ⟨down', -, hsent, -⟩ := @CaptureAccum.pressButtons_cons cids cid button set down
    rw [hsent] at h
    rcases List.mem_append.1 h with h | h
    · exact gestured_edge _ _ _ input h
    · exact gestured_pressButtons cids set down' input h

/-- The gestures of a button report are the click of the hold that it ends. -/
theorem gestures_onButtons (accum : CaptureAccum) (armed : ArmedControls) (cids : List UInt16) (now : Nat) :
    gestures (accum.onButtons armed cids now).1 = gestures (accum.nextHold (armed.held cids) cids now).1 := by
  unfold CaptureAccum.onButtons
  dsimp only
  rw [gestures_append, gestures_append, gestures_append, gestures_eq_nil (gestured_gestureEdges accum _ _),
    gestures_eq_nil (gestured_edge _ _ _), gestures_eq_nil (gestured_pressButtons cids _ _), List.append_nil,
    List.append_nil, List.append_nil]

/-! ## The invariant -/

/-- What is known of the hold after any run. -/
structure Known (armed : ArmedControls) (w : Observed) : Prop where
  down : w.accum.gesturesDown = w.held.map Prod.fst
  shown : ∃ cids : List UInt16, w.held = armed.gestures.filter fun p => p.1 ∈ cids
  idle : w.accum.hold = .idle → w.held = []
  owner : ∀ cid button swipe overlap skip, w.accum.hold = .holding cid button swipe overlap skip →
    (cid, button) ∈ w.held ∧ overlap = decide (1 < w.held.length) ∧ swipe.UnderWay ∧ swipe.fired = w.committed ∧
      (w.first = true → skip = !w.inherited ∧ swipe.movedAt = none)

theorem known_start (armed : ArmedControls) : Known armed {} where
  down := rfl
  shown := ⟨[], by simp⟩
  idle := fun _ => rfl
  owner := fun _ _ _ _ _ h => by cases h

variable {w : Observed}

/-- The hold that a button report begins. -/
theorem takeOver_known (hdown : w.accum.gesturesDown = w.held.map Prod.fst) (held : List (UInt16 × ButtonId))
    (now : Nat) :
    (w.accum.takeOver held now = .idle ∧ held = []) ∨
      ∃ cid button, w.accum.takeOver held now = .holding cid button (.begin now) (decide (1 < held.length))
          (!held.head?.any fun p => p.1 ∈ w.held.map Prod.fst) ∧ (cid, button) ∈ held := by
  unfold CaptureAccum.takeOver
  cases held with
  | nil => exact .inl ⟨rfl, rfl⟩
  | cons source rest =>
    refine .inr ⟨source.1, source.2, ?_, List.mem_cons_self⟩
    dsimp only
    rw [hdown, List.head?_cons, Option.any_some, decide_not]
    rfl

theorem underWay_begin (now : Nat) : (SwipeAccumulator.begin now).UnderWay := ⟨rfl, fun _ h => by cases h⟩

/-- **A button report keeps what is known, and clicks once for a hold that committed nothing.** -/
theorem known_buttons {armed : ArmedControls} (hw : Known armed w) (cids : List UInt16) (now : Nat) :
    Known armed (w.observe armed (.divertedButtons cids now)) ∧ w.Attributed armed (.divertedButtons cids now) := by
  obtain ⟨hdown, ⟨before, hbefore⟩, hidle, howner⟩ := hw
  have hshown : ∃ cids' : List UInt16, armed.held cids = armed.gestures.filter fun p => p.1 ∈ cids' :=
    ⟨cids, armed.held_eq cids⟩
  -- the hold is over, and a source that is still held begins the next one
  have htaken : w.released cids = true →
      (w.accum.nextHold (armed.held cids) cids now).2 = w.accum.takeOver (armed.held cids) now →
      Known armed (w.observe armed (.divertedButtons cids now)) := by
    intro hreleased hnext
    refine ⟨rfl, hshown, fun h => ?_, fun cid button swipe overlap skip h => ?_⟩
    · rcases takeOver_known hdown (armed.held cids) now with ⟨-, hnone⟩ | ⟨cid, button, htake, -⟩
      · exact hnone
      · cases (htake.symm.trans hnext.symm).trans h
    · rcases takeOver_known hdown (armed.held cids) now with ⟨htake, -⟩ | ⟨cid', button', htake, hmem⟩
      · cases (htake.symm.trans hnext.symm).trans h
      · cases (htake.symm.trans hnext.symm).trans h
        refine ⟨hmem, rfl, underWay_begin now, ?_, fun _ => ⟨?_, rfl⟩⟩
        · exact (if_pos hreleased).symm
        · exact congrArg not (if_pos hreleased).symm
  unfold Attributed report
  dsimp only
  rw [gestures_onButtons]
  cases hhold : w.accum.hold with
  | idle =>
    have hreleased : w.released cids = true := by
      unfold released HoldState.holder
      rw [hhold]
      rfl
    unfold CaptureAccum.nextHold at htaken ⊢
    rw [hhold] at htaken ⊢
    exact ⟨htaken hreleased rfl, rfl⟩
  | holding cid button swipe overlap skip =>
    obtain ⟨hmem, -, hunder, hcommitted, hfirst⟩ := howner cid button swipe overlap skip hhold
    have hreleased : w.released cids = decide (cid ∉ cids) := by
      unfold released HoldState.holder
      rw [hhold]
      rfl
    unfold CaptureAccum.nextHold at htaken ⊢
    rw [hhold] at htaken ⊢
    dsimp only at htaken ⊢
    by_cases hin : cid ∈ cids
    · rw [if_pos hin]
      have hkept : (w.accum.nextHold (armed.held cids) cids now).2 =
          .holding cid button swipe (decide (1 < (armed.held cids).length)) skip := by
        unfold CaptureAccum.nextHold
        rw [hhold]
        dsimp only
        rw [if_pos hin]
      have hstill : w.released cids ≠ true := by
        rw [hreleased]
        exact fun h => of_decide_eq_true h hin
      have hheld : (cid, button) ∈ armed.held cids := by
        rw [armed.held_eq]
        rw [hbefore] at hmem
        exact List.mem_filter.2 ⟨(List.mem_filter.1 hmem).1, decide_eq_true hin⟩
      refine ⟨⟨rfl, hshown, fun h => ?_, fun cid' button' swipe' overlap' skip' h => ?_⟩, ?_⟩
      · cases hkept.symm.trans h
      · cases hkept.symm.trans h
        refine ⟨hheld, rfl, hunder, hcommitted.trans (if_neg hstill).symm, fun hfirst' => ?_⟩
        have hsome : w.held.isEmpty = false := List.isEmpty_eq_false_iff.2 (List.ne_nil_of_mem hmem)
        have hfirst'' : (w.first || w.held.isEmpty && !(armed.held cids).isEmpty) = true := hfirst'
        rw [hsome, Bool.false_and, Bool.or_false] at hfirst''
        exact ⟨(hfirst hfirst'').1.trans (congrArg not (if_neg hstill).symm), (hfirst hfirst'').2⟩
      · unfold HoldState.holder
        simp [gestures, hin]
    · rw [if_neg hin] at htaken ⊢
      refine ⟨htaken (hreleased.trans (decide_eq_true hin)) rfl, ?_⟩
      have hended : swipe.ended.1 = !w.committed := by
        unfold SwipeAccumulator.ended
        rw [hunder.held, hcommitted, Bool.true_and]
      rw [hended]
      unfold HoldState.holder
      cases w.committed with
      | true => simp [gestures]
      | false => simp [gestures, CapturedInput.gestured, Option.filter, hin]

/-- What a raw report does to the hold that owns it. -/
theorem onRawXy_cases {accum : CaptureAccum} {cid : UInt16} {button : ButtonId} {swipe : SwipeAccumulator}
    {overlap skip : Bool} (hhold : accum.hold = .holding cid button swipe overlap skip) (dx dy : Int)
    (now later : Nat) :
    ((skip = true ∨ overlap = true) ∧
        accum.onRawXy dx dy now later = ([], { accum with hold := .holding cid button swipe overlap false })) ∨
      skip = false ∧ overlap = false ∧ accum.onRawXy dx dy now later =
        (((swipe.accumulate dx dy now later).1.map fun d => .gesture button d).toList,
          { accum with hold := .holding cid button (swipe.accumulate dx dy now later).2 overlap skip }) := by
  obtain ⟨hold, gesturesDown, dpiDown, buttonsDown⟩ := accum
  obtain rfl : hold = .holding cid button swipe overlap skip := hhold
  cases skip with
  | true => exact .inl ⟨.inl rfl, rfl⟩
  | false =>
    cases overlap with
    | true => exact .inl ⟨.inr rfl, rfl⟩
    | false => exact .inr ⟨rfl, rfl, rfl⟩

/-- **A raw report keeps what is known, and is attributed exactly when it is timely.** -/
theorem known_rawXy {armed : ArmedControls} (hw : Known armed w) (dx dy : Int) (now later : Nat) :
    Known armed (w.observe armed (.rawXy dx dy now later)) ∧
      (w.Attributed armed (.rawXy dx dy now later) ↔ w.Timely (.rawXy dx dy now later)) := by
  obtain ⟨hdown, hshown, hidle, howner⟩ := hw
  unfold Attributed Timely observe Adds report
  dsimp only
  cases hhold : w.accum.hold with
  | idle =>
    have hstray : w.accum.onRawXy dx dy now later = ([], w.accum) := by
      unfold CaptureAccum.onRawXy
      rw [hhold]
    rw [hstray]
    refine ⟨⟨hdown, hshown, hidle, fun cid button swipe overlap skip h => ?_⟩, ?_⟩
    · cases hhold.symm.trans h
    · have hnot : ¬(w.accum.hold.swipe ≠ w.accum.hold.swipe ∨ ([] : List CapturedInput) ≠ []) := by
        rintro (h | h) <;> exact h rfl
      rw [hidle hhold]
      refine ⟨fun _ h => absurd h.2.2 Nat.zero_ne_one, fun _ => ?_⟩
      exact ⟨fun h => absurd (hhold ▸ h) hnot, fun _ h => absurd (hhold ▸ h) hnot, fun gesture h => by cases h⟩
  | holding cid button swipe overlap skip =>
    obtain ⟨hmem, hoverlap, hunder, hcommitted, hfirst⟩ := howner cid button swipe overlap skip hhold
    rcases onRawXy_cases hhold dx dy now later with ⟨hdropped, hreport⟩ | ⟨rfl, rfl, hreport⟩
    · rw [hreport]
      refine ⟨⟨hdown, hshown, fun h => (by cases h), fun cid' button' swipe' overlap' skip' h => ?_⟩, ?_⟩
      · cases h
        exact ⟨hmem, hoverlap, hunder, hcommitted.trans (Bool.or_false _).symm, fun h => by cases h⟩
      · have hnot : ¬((HoldState.holding cid button swipe overlap false).swipe ≠
            (HoldState.holding cid button swipe overlap skip).swipe ∨ ([] : List CapturedInput) ≠ []) := by
          rintro (h | h) <;> exact h rfl
        refine ⟨fun _ => ?_, fun _ => ⟨fun h => absurd h hnot, fun _ h => absurd h hnot, fun gesture h => by cases h⟩⟩
        -- the sample is dropped: the hold is fresh, or it is not the only one
        rintro ⟨hfirst', hinherited, hlone⟩
        rcases hdropped with rfl | rfl
        · rw [hinherited] at hfirst
          cases (hfirst hfirst').1
        · rw [hlone] at hoverlap
          cases hoverlap
    · have hadds := SwipeAccumulator.accumulate_adds hunder dx dy now later
      have hlone : w.held = [(cid, button)] := by
        have hshort : ¬1 < w.held.length := of_decide_eq_false hoverlap.symm
        have hsome := List.length_pos_of_mem hmem
        obtain ⟨source, hsource⟩ := List.length_eq_one_iff.1 (show w.held.length = 1 by omega)
        rw [hsource] at hmem
        rw [hsource, List.mem_singleton.1 hmem]
      rw [hreport]
      refine ⟨⟨hdown, hshown, fun h => (by cases h), fun cid' button' swipe' overlap' skip' h => ?_⟩, ?_⟩
      · cases h
        refine ⟨hmem, hoverlap, hadds.underWay, hadds.fired.trans ?_, fun h => by cases h⟩
        rw [hcommitted]
        cases (swipe.accumulate dx dy now later).1 <;> rfl
      · have hsent : ∀ gesture ∈ gestures (((swipe.accumulate dx dy now later).1.map fun d =>
            CapturedInput.gesture button d).toList), gesture.1 = button ∧ gesture.2 ≠ .click := by
          intro gesture hgesture
          cases hdirection : (swipe.accumulate dx dy now later).1 with
          | none =>
            rw [hdirection] at hgesture
            cases hgesture
          | some direction =>
            rw [hdirection] at hgesture
            obtain rfl := List.mem_singleton.1 hgesture
            exact ⟨rfl, fun h => hadds.direction (hdirection.trans (congrArg some h))⟩
        have hmoved : w.first = true → (swipe.accumulate dx dy now later).2 ≠ swipe := by
          intro hfirst' h
          have hnone := (hfirst hfirst').2
          rw [← h, hadds.moved] at hnone
          cases hnone
        constructor
        · rintro ⟨-, hunadded, -⟩ ⟨hfirst', -, -⟩
          exact hunadded hfirst' (.inl fun h => hmoved hfirst' (Option.some.inj h))
        · intro htimely
          refine ⟨fun _ => ⟨(cid, button), hlone, rfl, rfl, fun gesture h => (hsent gesture h).1⟩, fun hfirst' => ?_,
            fun gesture h => (hsent gesture h).2⟩
          have hinherited : w.inherited = true := by
            have hskip := (hfirst hfirst').1
            cases hw : w.inherited with
            | true => rfl
            | false =>
              rw [hw] at hskip
              cases hskip
          exact absurd ⟨hfirst', hinherited, congrArg List.length hlone⟩ htimely

theorem known_observe {armed : ArmedControls} {w : Observed} (hw : Known armed w) (event : ControlEvent) :
    Known armed (w.observe armed event) ∧ (w.Attributed armed event ↔ w.Timely event) := by
  cases event with
  | rawXy dx dy now later => exact known_rawXy hw dx dy now later
  | divertedButtons cids now =>
    obtain ⟨hknown, hattributed⟩ := known_buttons hw cids now
    exact ⟨hknown, fun _ => trivial, fun _ => hattributed⟩

/-- **Motion is attributed exactly when no first sample is inherited**: over any reports, each one adds to the swipe of
the only source that is held, never as the first of a hold, and each hold that committed nothing ends in one click,
exactly when no lone source that took a hold over from another beside it gets the first sample. -/
theorem attributed_iff_timely (armed : ArmedControls) (events : List ControlEvent) :
    Along (step armed) (Attributed armed) {} events ↔ Along (step armed) Timely {} events := by
  refine along_congr (Known armed) (fun w event hw => (known_observe hw event).2) (fun w event w' hw _ h => ?_)
    (known_start armed)
  cases h
  exact (known_observe hw event).1

/-- The gesture button and the haptic panel. -/
def twoSources : ArmedControls :=
  { gestureCids := [0x00c3, 0x01a0], gestureButtonCids := [], dpiCids := [], buttonCids := [], wheelButtonCids := [] }

/-- The panel goes down beside the gesture button, which is released before any motion: the panel's first sample is a
swipe. -/
theorem inherited_sample_commits : ¬Along (step twoSources) (Attributed twoSources) {}
    [.divertedButtons [0x00c3] 0, .divertedButtons [0x00c3, 0x01a0] 1000000, .divertedButtons [0x01a0] 2000000,
      .rawXy (-3000) 40 200000000 200000000] := by
  intro h
  have hlast := (((h.2 _ rfl).2 _ rfl).2 _ rfl).1
  exact hlast.2.1 rfl (.inr (by decide +kernel))

end Observed

end Session
end OpenLogi
