import OpenLogi.Hook.Button
/-!
# Pairing — a release goes where its press went

The records of one thread (the hold, the suppressed presses, the echoes) say which releases it will suppress.  The
invariant: a button with a record had its latest press suppressed.  A press that passes while a record of its button
stays breaks it, and no other event does.
-/
namespace OpenLogi
namespace Hook

open OpenLogi.Core (Binding ButtonId)
open Button (ActionDispatchTarget)
open Lib (run Along EveryState along_inv everyState_iff_along)

/-! ## Records -/

/-- Something of a press of `id` is remembered that suppresses a release. -/
def ThreadState.recorded (s : ThreadState) (id : ButtonId) : Bool :=
  s.hold.holds id || id ∈ s.suppressedPresses || s.divertedPresses id = some .echo

/-- What was answered to the latest press of `id`. -/
def lastPress (id : ButtonId) (answers : List Answer) : Option EventDisposition :=
  (answers.find? fun answer => answer.id = id && answer.pressed).map (·.disposition)

/-- The runtime takes the press for the binding that the maps give it. -/
def ButtonEdge.taken (e : ButtonEdge) : Bool :=
  (e.maps.bind fun maps => (maps.pressBinding e.id).1).any (fun binding => !bindingIsNativeClick e.id binding) &&
    e.accepted.isSome

def ButtonEdge.isGesture (e : ButtonEdge) : Bool := e.maps.any fun maps => (maps.pressBinding e.id).2

/-- A press passes while a record of its button stays: its source may not be remapped, it is another device's press, or
it is not a gesture's and the runtime does not take it. -/
def ThreadState.strands (macos : Bool) (s : ThreadState) (e : ButtonEdge) : Bool :=
  if !e.id.isOsHookButton || !buttonSourceMayRemap macos e.device then s.recorded e.id
  else match e.maps.bind fun maps => maps.divertedPress e.id e.device with
    | some .echo => false
    | some .otherDevice => s.hold.holds e.id || e.id ∈ s.suppressedPresses
    | none => s.hold.holds e.id && !e.isGesture && !e.taken

variable {id : ButtonId} {s : ThreadState} {e : ButtonEdge}

theorem prepareBegin_refuse {s : HoldState} {now : Nat} (h : (s.prepareBegin id now).1 = .refuse) :
    (s.prepareBegin id now).2 = s ∧ s.holds id = false := by
  unfold HoldState.prepareBegin at h ⊢
  split at h
  · cases h
  · rename_i held hc
    split at h
    · rename_i hother
      rw [if_pos hother]
      exact ⟨rfl, by simp [HoldState.holds, hc, hother.1]⟩
    · split at h <;> cases h

theorem prepareBegin_taken {s : HoldState} {now : Nat} (h : (s.prepareBegin id now).1 ≠ .refuse) :
    (s.prepareBegin id now).2.current = none := by
  unfold HoldState.prepareBegin at h ⊢
  split
  · assumption
  · rename_i held hc
    simp only [hc] at h
    split
    · rename_i hother
      rw [if_pos hother] at h
      exact absurd rfl h
    · rfl

theorem prepareBegin_holds {s : HoldState} {other : ButtonId} {now : Nat}
    (h : (s.prepareBegin id now).2.holds other = true) : s.holds other = true := by
  by_cases hr : (s.prepareBegin id now).1 = .refuse
  · rwa [(prepareBegin_refuse hr).1] at h
  · rw [HoldState.holds, prepareBegin_taken hr] at h
    cases h

theorem ended_holds {s : HoldState} {other : ButtonId} (h : (s.ended id).2.holds other = true) :
    s.holds other = true := by
  unfold HoldState.ended at h
  split at h
  · exact h
  · split at h
    · cases h
    · exact h

theorem ended_isSome {s : HoldState} : (s.ended id).1.isSome = s.holds id := by
  unfold HoldState.ended HoldState.holds
  split
  · rename_i hc
    rw [hc]
    rfl
  · rename_i held hc
    rw [hc]
    split <;> simp [*]

/-! ## What each function does to the records -/

/-- The press is suppressed exactly when the runtime takes it, and remembered exactly then. -/
theorem remapPress_records (s : ThreadState) (id : ButtonId) (queued : Bool) :
    ((s.remapPress id queued).1 = .suppress ↔ queued = true) ∧
      (∀ other, (s.remapPress id queued).2.recorded other = true → other ≠ id → s.recorded other = true) ∧
      (queued = false → (s.remapPress id queued).2.recorded id =
        (s.hold.holds id || s.divertedPresses id = some .echo)) := by
  cases queued with
  | false =>
    refine ⟨by simp [ThreadState.remapPress, remappedPressDisposition], fun other h hne => ?_, fun _ => ?_⟩
    · simpa [ThreadState.remapPress, remappedPressDisposition, ThreadState.recorded, hne] using h
    · simp [ThreadState.remapPress, remappedPressDisposition, ThreadState.recorded]
  | true =>
    refine ⟨by simp [ThreadState.remapPress, remappedPressDisposition], fun other h hne => ?_, fun h => by cases h⟩
    simpa [ThreadState.remapPress, remappedPressDisposition, ThreadState.recorded, hne] using h

/-- **What a press does to the records**: it is suppressed, or it passes and leaves a record of its button exactly when
it strands one; no other button gains a record. -/
structure Pressed (s : ThreadState) (id : ButtonId) (strands : Bool)
    (out : EventDisposition × List DispatcherCall × ThreadState) : Prop where
  own : (out.1 = .suppress ∧ strands = false) ∨ (out.1 = .passThrough ∧ out.2.2.recorded id = strands)
  other : ∀ other, out.2.2.recorded other = true → other ≠ id → s.recorded other = true

theorem pressed_remap (queued : Bool) (calls : List DispatcherCall) (hecho : s.divertedPresses id = none) :
    Pressed s id (s.hold.holds id && !queued) ((s.remapPress id queued).1, calls, (s.remapPress id queued).2) := by
  obtain ⟨hsup, hother, hown⟩ := remapPress_records s id queued
  refine ⟨?_, hother⟩
  cases queued with
  | true => exact Or.inl ⟨hsup.2 rfl, by simp⟩
  | false =>
    refine Or.inr ⟨?_, by simp [hown rfl, hecho]⟩
    cases hd : (s.remapPress id false).1 with
    | passThrough => rfl
    | suppress => cases hsup.1 hd

theorem pressed_single (binding : Option Binding) (target : ActionDispatchTarget)
    (hecho : s.divertedPresses e.id = none) :
    Pressed s e.id
      (s.hold.holds e.id && !(binding.any (fun binding => !bindingIsNativeClick e.id binding) && e.accepted.isSome))
      (s.handleSingle e binding target) := by
  unfold ThreadState.handleSingle
  split
  · exact pressed_remap false _ hecho
  · rename_i binding
    split
    · rename_i hnative
      simpa [hnative] using pressed_remap false [] hecho
    · rename_i hnative
      simpa [hnative] using pressed_remap e.accepted.isSome [.tryHookButtonDown e.id (some binding) target] hecho

theorem pressed_hold {stale : List DispatcherCall} {target : ActionDispatchTarget} (hnone : s.hold.current = none)
    (hecho : s.divertedPresses e.id = none) :
    Pressed s e.id false (s.handleHold e stale target) := by
  have hholds : s.hold.holds e.id = false := by simp [HoldState.holds, hnone]
  unfold ThreadState.handleHold
  split
  · refine ⟨Or.inl ⟨rfl, rfl⟩, fun other h hne => ?_⟩
    simpa [ThreadState.recorded, HoldState.holds, HoldState.begin, hnone, Ne.symm hne] using h
  · simpa [hholds] using pressed_remap false _ hecho

theorem pressed_of_hold {hold : HoldState} {strands : Bool} {out : EventDisposition × List DispatcherCall × ThreadState}
    (h : Pressed { s with hold := hold } id strands out)
    (hh : ∀ other, hold.holds other = true → s.hold.holds other = true) : Pressed s id strands out where
  own := h.own
  other := by
    intro other hr hne
    have hrec := h.other other hr hne
    simp only [ThreadState.recorded, Bool.or_eq_true] at hrec ⊢
    exact hrec.imp_left (Or.imp_left (hh other))

theorem pressed_handlePress (hecho : s.divertedPresses e.id = none) :
    Pressed s e.id (s.hold.holds e.id && !e.isGesture && !e.taken) (s.handlePress e) := by
  unfold ThreadState.handlePress ButtonEdge.isGesture ButtonEdge.taken
  cases e.maps with
  | none => simpa using pressed_single none _ hecho
  | some maps =>
    cases hg : (maps.pressBinding e.id).2 with
    | false => simpa [hg] using pressed_single (maps.pressBinding e.id).1 _ hecho
    | true =>
      simp only [hg, Option.any_some, Bool.not_true, Bool.and_false, Bool.false_and, if_true]
      have hholds : ∀ other, (s.hold.prepareBegin e.id e.now).2.holds other = true → s.hold.holds other = true :=
        fun other => prepareBegin_holds
      refine pressed_of_hold ?_ hholds
      cases hcase : (s.hold.prepareBegin e.id e.now).1 with
      | begin => exact pressed_hold (prepareBegin_taken (by simp [hcase])) hecho
      | replace stale => exact pressed_hold (prepareBegin_taken (by simp [hcase])) hecho
      | refuse =>
        obtain ⟨hsame, hnot⟩ := prepareBegin_refuse hcase
        rw [hsame]
        simpa [hnot] using pressed_single (maps.pressBinding e.id).1 _ hecho

/-- **What a press of the remap path does to the records.** -/
theorem pressed_handleButton (macos : Bool) (s : ThreadState) (e : ButtonEdge) (hp : e.pressed = true) :
    Pressed s e.id (s.strands macos e) (s.handleButton macos e) := by
  unfold ThreadState.handleButton ThreadState.strands
  split
  · exact ⟨Or.inr ⟨rfl, rfl⟩, fun other h _ => h⟩
  · simp only [divertedEdge, hp, if_true]
    -- what the verdict records is for this button alone
    have hother : ∀ verdict other, other ≠ e.id →
        ThreadState.recorded { s with divertedPresses := Function.update s.divertedPresses e.id verdict } other =
          s.recorded other := by
      intro verdict other hne
      simp [ThreadState.recorded, Function.update_of_ne hne]
    cases hv : e.maps.bind fun maps => maps.divertedPress e.id e.device with
    | none =>
      have h := pressed_handlePress
        (s := { s with divertedPresses := Function.update s.divertedPresses e.id none }) (e := e) (by simp)
      exact ⟨h.own, fun other hr hne => hother none other hne ▸ h.other other hr hne⟩
    | some verdict =>
      cases verdict with
      | echo => exact ⟨Or.inl ⟨rfl, rfl⟩, fun other hr hne => hother _ other hne ▸ hr⟩
      | otherDevice =>
        exact ⟨Or.inr ⟨rfl, by simp [ThreadState.recorded]⟩, fun other hr hne => hother _ other hne ▸ hr⟩

theorem released_handleRelease (s : ThreadState) (e : ButtonEdge) :
    ((s.handleRelease e).1 = .suppress → (s.hold.holds e.id || e.id ∈ s.suppressedPresses) = true) ∧
      ∀ other, (s.handleRelease e).2.2.recorded other = true → s.recorded other = true := by
  have hended : ∀ other, (s.hold.ended e.id).2.holds other = true → s.hold.holds other = true :=
    fun other => ended_holds
  unfold ThreadState.handleRelease
  split
  · rename_i press wasClick hold he
    rw [he] at hended
    have hholds : s.hold.holds e.id = true := by rw [← ended_isSome, he]; rfl
    refine ⟨fun _ => by simp [hholds], fun other hr => ?_⟩
    simp only [ThreadState.recorded, Bool.or_eq_true] at hr ⊢
    exact hr.imp_left (Or.imp_left (hended other))
  · rename_i hold he
    rw [he] at hended
    unfold remappedReleaseDisposition
    by_cases hmem : e.id ∈ s.suppressedPresses
    · simp only [if_pos hmem]
      refine ⟨fun _ => by simp [hmem], fun other hr => ?_⟩
      simp only [ThreadState.recorded, Bool.or_eq_true, decide_eq_true_iff] at hr ⊢
      exact hr.imp_left (Or.imp (hended other) Finset.mem_of_mem_erase)
    · simp only [if_neg hmem]
      refine ⟨(fun h => by cases h), fun other hr => ?_⟩
      simp only [ThreadState.recorded, Bool.or_eq_true] at hr ⊢
      exact hr.imp_left (Or.imp_left (hended other))

/-- **What a release does to the records**: it is suppressed only with a record of its button, and it adds none. -/
theorem released_handleButton (macos : Bool) (s : ThreadState) (e : ButtonEdge) (hp : e.pressed = false) :
    ((s.handleButton macos e).1 = .suppress → s.recorded e.id = true) ∧
      ∀ other, (s.handleButton macos e).2.2.recorded other = true → s.recorded other = true := by
  unfold ThreadState.handleButton
  split
  · exact ⟨(fun h => by cases h), fun other h => h⟩
  · simp only [divertedEdge, hp, Bool.false_eq_true, if_false]
    have hjudged : ∀ other, ThreadState.recorded
        { s with divertedPresses := Function.update s.divertedPresses e.id none } other = true →
          s.recorded other = true := by
      intro other hr
      by_cases hne : other = e.id
      · subst hne
        simp only [ThreadState.recorded, Function.update_self, Bool.or_eq_true] at hr ⊢
        exact Or.inl (hr.resolve_right (by simp))
      · simpa [ThreadState.recorded, Function.update_of_ne hne] using hr
    cases hd : s.divertedPresses e.id with
    | some verdict =>
      refine ⟨fun h => ?_, hjudged⟩
      cases verdict with
      | echo => simp [ThreadState.recorded, hd]
      | otherDevice => cases h
    | none =>
      obtain ⟨hsup, hrec⟩ := released_handleRelease
        { s with divertedPresses := Function.update s.divertedPresses e.id none } e
      refine ⟨fun h => ?_, fun other hr => hjudged other (hrec other hr)⟩
      rw [ThreadState.recorded, hsup h]
      rfl

/-! ## Runs -/

/-- A button with a record had its latest press suppressed. -/
def Tracked (s : Sys) : Prop := ∀ id, s.thread.recorded id = true → lastPress id s.answers = some .suppress

/-- Every release that was suppressed follows a press that was. -/
def Paired (answers : List Answer) : Prop :=
  ∀ later id earlier, answers = later ++ ⟨id, false, .suppress⟩ :: earlier → lastPress id earlier = some .suppress

/-- No press passes while a record of its button stays. -/
def Clean (macos : Bool) (s : Sys) : Ev → Prop
  | .button e => e.pressed = true → s.thread.strands macos e = false
  | _ => True

instance (macos : Bool) (s : Sys) : ∀ e, Decidable (Clean macos s e)
  | .button e => inferInstanceAs (Decidable (e.pressed = true → s.thread.strands macos e = false))
  | .moved _ _ _ _ _ | .captureInterrupted => isTrue trivial

theorem lastPress_cons (id : ButtonId) (answer : Answer) (answers : List Answer) :
    lastPress id (answer :: answers) =
      if answer.id = id ∧ answer.pressed = true then some answer.disposition else lastPress id answers := by
  unfold lastPress
  rw [List.find?_cons]
  split
  · rename_i h
    rw [if_pos (by simpa using h)]
    rfl
  · rename_i h
    rw [if_neg (by simpa using h)]

theorem accumulate_holds (s : HoldState) (dx dy : Int) (now later : Nat) (id : ButtonId) :
    (s.accumulate dx dy now later).2.holds id = s.holds id := by
  unfold HoldState.accumulate
  split <;> rfl

theorem recorded_handleMoved (s : ThreadState) (dx dy : Int) (maps : Option HookMaps) (now later : Nat)
    (id : ButtonId) :
    (s.handleMoved dx dy maps now later).2.recorded id = s.recorded id := by
  have hh := accumulate_holds s.hold dx dy now later id
  show ((s.hold.accumulate dx dy now later).2.holds id || _ || _) = _
  rw [hh]
  rfl

theorem step_button (macos : Bool) (s : Sys) (e : ButtonEdge) :
    step macos s (.button e) = some ⟨(s.thread.handleButton macos e).2.2,
      s.calls ++ (s.thread.handleButton macos e).2.1,
      ⟨e.id, e.pressed, (s.thread.handleButton macos e).1⟩ :: s.answers⟩ := rfl

/-- **A step keeps the records true exactly when it strands none.** -/
theorem tracked_step (macos : Bool) {s s' : Sys} {e : Ev} (h : Tracked s) (hs : step macos s e = some s') :
    Tracked s' ↔ Clean macos s e := by
  cases e with
  | moved dx dy maps now later =>
    obtain rfl := Option.some.inj hs
    exact iff_of_true (fun id hr => h id (recorded_handleMoved s.thread dx dy maps now later id ▸ hr)) trivial
  | captureInterrupted =>
    cases hs
    refine iff_of_true (fun id hr => h id ?_) trivial
    simp only [ThreadState.recorded, HoldState.cancel, HoldState.holds, Option.any_none, Bool.false_or,
      Bool.or_eq_true] at hr ⊢
    exact hr.imp_left Or.inr
  | button e =>
    rw [step_button] at hs
    obtain rfl := Option.some.inj hs
    by_cases hp : e.pressed = true
    · obtain ⟨hown, hother⟩ := pressed_handleButton macos s.thread e hp
      constructor
      · intro h' _
        rcases hown with ⟨-, hstrands⟩ | ⟨hpass, hrec⟩
        · exact hstrands
        · -- a record that stays would say that the press was suppressed
          rw [← hrec]
          refine Bool.eq_false_iff.2 fun hr => ?_
          have hlast := h' e.id hr
          rw [lastPress_cons, if_pos ⟨rfl, hp⟩, hpass] at hlast
          cases hlast
      · intro hc id hr
        rw [lastPress_cons]
        by_cases hid : e.id = id
        · subst hid
          rw [if_pos ⟨rfl, hp⟩]
          rcases hown with ⟨hsup, -⟩ | ⟨-, hrec⟩
          · rw [hsup]
          · rw [show _ = true from hr, show s.thread.strands macos e = false from hc hp] at hrec
            cases hrec
        · rw [if_neg fun h => hid h.1]
          exact h id (hother id hr (Ne.symm hid))
    · obtain ⟨-, hrec⟩ := released_handleButton macos s.thread e (Bool.eq_false_iff.2 hp)
      refine iff_of_true (fun id hr => ?_) fun hp' => absurd hp' hp
      rw [lastPress_cons, if_neg fun h => hp h.2]
      exact h id (hrec id hr)

/-- A step from true records suppresses a release only if the button's latest press was suppressed. -/
theorem paired_step (macos : Bool) {s s' : Sys} {e : Ev} (ht : Tracked s) (h : Paired s.answers)
    (hs : step macos s e = some s') : Paired s'.answers := by
  cases e with
  | moved dx dy maps now later =>
    cases hs
    exact h
  | captureInterrupted =>
    cases hs
    exact h
  | button e =>
    rw [step_button] at hs
    obtain rfl := Option.some.inj hs
    intro later id earlier he
    cases later with
    | nil =>
      obtain ⟨ha, rfl⟩ := List.cons.inj he
      have hid : e.id = id := congrArg Answer.id ha
      have hreleased : e.pressed = false := congrArg Answer.pressed ha
      have hsup : (s.thread.handleButton macos e).1 = .suppress := congrArg Answer.disposition ha
      exact ht id (hid ▸ (released_handleButton macos s.thread e hreleased).1 hsup)
    | cons answer later => exact h later id earlier (List.cons.inj he).2

theorem tracked_init : Tracked {} := fun id h => by simp [ThreadState.recorded, HoldState.holds] at h

/-- **Every record is true in every state of a run exactly when no press strands one.** -/
theorem tracked_iff_clean (macos : Bool) (events : List Ev) :
    EveryState (step macos) Tracked {} events ↔ Along (step macos) (Clean macos) {} events :=
  everyState_iff_along Tracked (Clean macos) (fun _ _ _ h hs => tracked_step macos h hs)
    (fun s e h => by cases e <;> cases h) events {} tracked_init

/-- **A release is suppressed only if the button's latest press was**, in every run in which no press passes while a
record of its button stays. -/
theorem release_follows_press (macos : Bool) (events : List Ev) (s : Sys)
    (hc : Along (step macos) (Clean macos) {} events) (hr : run (step macos) {} events = some s) : Paired s.answers :=
  (along_inv (fun s => Tracked s ∧ Paired s.answers) (Clean macos)
    (fun _ _ _ h hc hs => ⟨(tracked_step macos h.1 hs).2 hc, paired_step macos h.1 h.2 hs⟩) events {} s
    ⟨tracked_init, fun _ _ _ h => by simp at h⟩ hc hr).2

/-! ### A gesture hold whose button stops being a gesture button -/

def gestureMaps : HookMaps := { gestures := fun id => if id = .back then some fun _ => none else none }

/-- A press of Back under `maps`, which the runtime takes. -/
def backDown (maps : HookMaps) : Ev :=
  .button { id := .back, pressed := true, maps := some maps, accepted := some ⟨0, ⟨.osHook 0, .button .back⟩, 0⟩ }

def backUp (maps : HookMaps) : Ev :=
  .button { id := .back, pressed := false, maps := some maps, mapsLater := some maps }

/-- A gesture held, its configuration replaced, and released: both edges suppressed. -/
theorem gesture_released : ∃ s, run (step false) {} [backDown gestureMaps, backUp {}] = some s ∧
    s.answers = [⟨.back, false, .suppress⟩, ⟨.back, true, .suppress⟩] ∧ Paired s.answers := by
  obtain ⟨s, hs⟩ := Option.isSome_iff_exists.1
    (show (run (step false) {} [backDown gestureMaps, backUp {}]).isSome = true by decide)
  have ha : (run (step false) {} [backDown gestureMaps, backUp {}]).map Sys.answers =
      some [⟨.back, false, .suppress⟩, ⟨.back, true, .suppress⟩] := by decide
  rw [hs] at ha
  exact ⟨s, hs, Option.some.inj ha, release_follows_press false _ s (by decide) hs⟩

/-- **The release of a native press is suppressed**: the release of a gesture hold is lost, the configuration takes the
gesture away, the next press passes and its release does not. -/
theorem lost_release_strands : ∃ s, run (step false) {} [backDown gestureMaps, backDown {}, backUp {}] = some s ∧
    s.answers = [⟨.back, false, .suppress⟩, ⟨.back, true, .passThrough⟩, ⟨.back, true, .suppress⟩] ∧
    ¬ Paired s.answers := by
  obtain ⟨s, hs⟩ := Option.isSome_iff_exists.1
    (show (run (step false) {} [backDown gestureMaps, backDown {}, backUp {}]).isSome = true by decide)
  have ha : (run (step false) {} [backDown gestureMaps, backDown {}, backUp {}]).map Sys.answers =
      some [⟨.back, false, .suppress⟩, ⟨.back, true, .passThrough⟩, ⟨.back, true, .suppress⟩] := by decide
  rw [hs] at ha
  have ha := Option.some.inj ha
  refine ⟨s, hs, ha, fun h => ?_⟩
  have hp := h [] .back _ ha
  exact absurd hp (by decide)

end Hook
end OpenLogi
