import OpenLogi.Button.Move
/-!
# Lifecycle — the events of one press, over every run of the worker

The invariant: in the view an active press has started and not ended, and any other press has not started or has ended.
A settle pass keeps it as long as it takes no late release of a press of which it has put a gesture off.
-/
namespace OpenLogi
namespace Button

open Lib (Phase Whole run run_append run_append_some Along along_inv run_next_live run_fresh_isSome whole_of_run)

/-- Of a press that was found due and is still active, only gestures have been put off. -/
structure Inv (s : Sys) : Prop where
  known : Known s
  life : ∀ t, ∃ p, run Phase.next .fresh (marks t s.view) = some p ∧ (p = .live ↔ s.state.Holds t)
  mids : ∀ event ∈ s.pc.deferred, event.press.token ∈ s.pc.due → s.state.Holds event.press.token →
    event.mark = .mid ∧ isDeadlineEvent s.pc.due event = false
  exited : s.pc = .exited → ∀ t, ¬ s.state.Holds t

/-- The marks of a command's events come after those that are there. -/
theorem Output.marks_view {s s' : Sys} {events : List ButtonRuntimeEvent} (h : Output s s' events) (t : PressToken)
    (hsettle : marks t (emitSettledEvents (s.pc.deferred ++ events) s.pc.due) =
      marks t (emitSettledEvents s.pc.deferred s.pc.due) ++ marks t events)
    (henter : marks t (emitSettledEvents events (s.state.dueLongPresses s.clock)) = marks t events) :
    marks t s'.view = marks t s.view ++ marks t events := by
  unfold Sys.view
  rw [marks_append, marks_append, List.append_assoc]
  cases h with
  | putOff hem hdue hdef hpc => rw [hem, hdue, hdef, hsettle]
  | enter hem hv hdue hdef hpc =>
    rw [hem, hdue, hdef, hv, henter]
    rfl
  | emit hem hdue hdef hpc =>
    rw [hem, hdue, hdef, marks_append, hsettle, List.append_assoc]
    exact congrArg _ (List.append_nil _)

variable {out : List ButtonRuntimeEvent × ButtonState}

/-- **What a command emits keeps the order of each press**, unless a late release overtakes something. -/
theorem Effect.marks_settle {s : ButtonState} {command : ButtonCommand} {generation : Nat}
    (heff : Effect s command generation out) {due : List PressToken} {deferred : List ButtonRuntimeEvent}
    (hw : ∀ p ∈ s.active, p.token ∈ due → p.behavior.deadline ≠ none) (hn : ∀ p ∈ command.presses, p.token ∉ due)
    (hlate : ∀ press, LateRelease s due command generation press → ∀ event ∈ deferred,
      event.press.token ≠ press.token) (t : PressToken) :
    marks t (emitSettledEvents (deferred ++ out.1) due) =
      marks t (emitSettledEvents deferred due) ++ marks t out.1 := by
  rcases heff.front hw hn with hback | ⟨press, hpress, -, hfront⟩
  · exact marks_settle_ordered fun event hev _ => hback event hev
  · by_cases ht : press.token = t
    · exact marks_settle_first (fun event hev => ht ▸ hlate press hpress event hev) fun event hev _ =>
        (hfront event hev).2
    · exact marks_settle_ordered fun event hev he => absurd ((hfront event hev).1.symm.trans he) ht

/-- What is put off for a press that stays active has only triggered it. -/
theorem Effect.mids {s : ButtonState} {command : ButtonCommand} {generation : Nat}
    (heff : Effect s command generation out) {due : List PressToken}
    (hw : ∀ p ∈ s.active, p.token ∈ due → p.behavior.deadline ≠ none) (hn : ∀ p ∈ command.presses, p.token ∉ due)
    (hfresh : ∀ p ∈ command.presses, ¬ s.Holds p.token) :
    (∀ t ∈ due, out.2.Holds t → s.Holds t) ∧ ∀ event ∈ out.1, event.press.token ∈ due →
      out.2.Holds event.press.token → event.mark = .mid ∧ isDeadlineEvent due event = false := by
  obtain ⟨born, hborn, hb⟩ := heff.balanced hfresh
  have hheld : ∀ t ∈ due, out.2.Holds t → s.Holds t := by
    intro t ht hl
    refine Classical.byContradiction fun hno => (hb.rest t (fun hb' => ?_) hno).2 hl
    obtain ⟨p, hp, rfl⟩ := hborn t hb'
    exact hn p hp ht
  refine ⟨hheld, fun event hev ht hl => ?_⟩
  have hrun := hb.live _ (hheld _ ht hl)
  rw [ButtonState.phase_live hl] at hrun
  refine ⟨?_, ?_⟩
  · rcases run_next_live hrun with ⟨-, k, hk⟩ | ⟨hover, -⟩
    · exact List.eq_of_mem_replicate (hk ▸ mem_marks hev rfl)
    · cases hover
  · rcases heff.front hw hn with hback | ⟨press, -, hgone, hfront⟩
    · exact hback event hev
    · exact absurd ((hfront event hev).1 ▸ hl) hgone

/-- The lifecycle goes on with the events of `out`. -/
theorem Inv.life_output {s s' : Sys} (h : Inv s) {born : List PressToken} (hb : Balanced born s.state out)
    (hborn : ∀ t ∈ born, marks t s.view = []) (hs : s'.state = out.2)
    (hv : ∀ t, marks t s'.view = marks t s.view ++ marks t out.1) (t : PressToken) :
    ∃ p, run Phase.next .fresh (marks t s'.view) = some p ∧ (p = .live ↔ s'.state.Holds t) := by
  have hphase : out.2.phase t = .live ↔ s'.state.Holds t := by
    rw [hs, ButtonState.phase]
    split <;> simp [*]
  obtain ⟨p, hrun, hiff⟩ := h.life t
  rw [hv, run_append, hrun]
  by_cases ht : s.state.Holds t
  · rw [hiff.2 ht]
    exact ⟨_, hb.live t ht, hphase⟩
  · by_cases hb' : t ∈ born
    · rw [hborn t hb'] at hrun
      cases hrun
      exact ⟨_, hb.starts t hb' ht, hphase⟩
    · obtain ⟨hm, ht'⟩ := hb.rest t hb' ht
      rw [hm, hs]
      exact ⟨p, rfl, fun hp => absurd (hiff.1 hp) ht, fun h' => absurd h' ht'⟩

theorem Inv.move {s s' : Sys} {e : Ev} (h : Inv s) (ho : InOrder s e) (hm : Move s e s') : Inv s' := by
  have hk' := h.known.move hm
  have hframe : Frame s s' → Inv s' := fun hf =>
    ⟨hk', fun t => by rw [hf.view]; simpa only [hf.holds] using h.life t,
      by simpa only [hf.deferred, hf.due, hf.holds] using h.mids,
      fun he t ht => h.exited (hf.exited he) t ((hf.holds t).1 ht)⟩
  cases hm with
  | accept press hf hid hn hu => exact hframe hf
  | keep gone hf hn hu => exact hframe hf
  | effect command generation out gone heff hs hout hn hu hlate =>
    have hfresh := h.known.fresh hu
    have hholds : ∀ p ∈ command.presses, ¬ s.state.Holds p.token := fun p hp => h.known.not_holds (hfresh p hp)
    have hdue : ∀ p ∈ command.presses, p.token ∉ s.pc.due := fun p hp => h.known.not_due (hfresh p hp)
    have hw : ∀ p ∈ s.state.active, p.token ∈ s.state.dueLongPresses s.clock → p.behavior.deadline ≠ none := by
      intro p hp ht
      obtain ⟨q, hq, he, hd⟩ := mem_dueLongPresses ht
      rwa [ButtonState.eq_of_token hp hq he.symm]
    have hnew : ∀ p ∈ command.presses, p.token ∉ s.state.dueLongPresses s.clock := by
      intro p hp ht
      obtain ⟨q, hq, he, -⟩ := mem_dueLongPresses ht
      exact hholds p hp ⟨q, hq, he⟩
    obtain ⟨born, hborn, hb⟩ := heff.balanced hholds
    refine ⟨hk', h.life_output hb (fun t ht => ?_) hs fun t => hout.marks_view t ?_ ?_, ?_, ?_⟩
    · obtain ⟨p, hp, rfl⟩ := hborn t ht
      exact hfresh p hp
    · exact heff.marks_settle h.known.waiting hdue (fun press hp event hev he => hlate press hp event hev he ho) t
    · have henter : marks t (emitSettledEvents ([] ++ out.1) (s.state.dueLongPresses s.clock)) =
          marks t (emitSettledEvents [] (s.state.dueLongPresses s.clock)) ++ marks t out.1 :=
        heff.marks_settle hw hnew (fun _ _ event hev => absurd hev List.not_mem_nil) t
      exact henter
    · intro event hev ht hl
      rw [hs] at hl
      cases hout with
      | putOff hem hdue' hdef hpc =>
        rw [hdue'] at ht ⊢
        obtain ⟨hheld, hout⟩ := heff.mids h.known.waiting hdue hholds
        rcases List.mem_append.1 (hdef ▸ hev) with hev | hev
        · exact h.mids event hev ht (hheld _ ht hl)
        · exact hout event hev ht hl
      | enter hem hv hdue' hdef hpc =>
        rw [hdue'] at ht ⊢
        exact (heff.mids hw hnew hholds).2 event (hdef ▸ hev) ht hl
      | emit hem hdue' hdef hpc =>
        rw [hdue'] at ht
        cases ht
    · intro he
      cases hout with
      | putOff hem hdue' hdef hpc => exact absurd he hpc
      | enter hem hv hdue' hdef hpc => exact absurd he hpc
      | emit hem hdue' hdef hpc => exact hpc he
  | fire hs hem hdue hdef hpc hn hu =>
    obtain ⟨hholds, hev⟩ := emitSelectedLongPresses_events s.state s.pc.due s.clock
    have hb := balanced_mids hholds (fun event h => (hev event h).1) fun event h => (hev event h).2.2.1
    refine ⟨hk', h.life_output hb (fun t ht => absurd ht List.not_mem_nil) hs fun t => ?_, ?_, fun he => absurd he hpc⟩
    · -- the gestures put off and the deadlines come in either order
      have hsettle : marks t (emitSettledEvents (s.pc.deferred ++
          (emitSelectedLongPresses s.state s.pc.due s.clock).1) s.pc.due) =
            marks t (emitSettledEvents s.pc.deferred s.pc.due) ++
              marks t (emitSelectedLongPresses s.state s.pc.due s.clock).1 := by
        by_cases ht : t ∈ s.pc.due ∧ s.state.Holds t
        · refine marks_settle_mids (fun event h' he => h.mids event h' (he ▸ ht.1) (he ▸ ht.2)) fun event h' he => ?_
          obtain ⟨hm, hd, -, hbeh⟩ := hev event h'
          refine ⟨hm, ?_⟩
          cases event with
          | started press => cases hm
          | ended press reason => exact decide_eq_true ⟨hbeh, hd⟩
          | triggered press action cause => exact decide_eq_true ⟨hbeh, hd⟩
        · exact marks_settle_ordered fun event h' he => absurd ⟨he ▸ (hev event h').2.1, he ▸ (hev event h').2.2.1⟩ ht
      rw [Sys.view, Sys.view, hem, hdue, hdef, emitSettledEvents_nil, List.append_nil, marks_append, hsettle,
        marks_append, List.append_assoc]
    · rw [hdef]
      exact fun event hev => absurd hev List.not_mem_nil

theorem inv_run {events : List Ev} {s : Sys} (ho : Along step InOrder {} events) (hr : run step {} events = some s) :
    Inv s := by
  refine along_inv Inv InOrder (fun _ _ _ h ho hs => h.move ho (step_move hs)) events {} s ?_ ho hr
  exact ⟨known_init, fun t => ⟨.fresh, rfl, by simp [ButtonState.Holds]⟩, fun _ h => absurd h List.not_mem_nil,
    fun h => by cases h⟩

/-- **The events of one press**: in every run whose settle passes take no release that overtakes an event of its own
press, they begin one start, then triggers, then one end, and all of that is there once the worker has exited. -/
theorem lifecycle_of_in_order (events : List Ev) (s : Sys) (ho : Along step InOrder {} events)
    (hr : run step {} events = some s) (t : PressToken) :
    (∃ w, Whole w ∧ marks t s.emitted <+: w) ∧
      (s.pc = .exited → marks t s.emitted = [] ∨ Whole (marks t s.emitted)) := by
  have h := inv_run ho hr
  obtain ⟨p, hp, hlive⟩ := h.life t
  refine ⟨run_fresh_isSome.1 ?_, fun hpc => ?_⟩
  · rw [Sys.view, marks_append] at hp
    obtain ⟨q, hq, -⟩ := run_append_some hp
    rw [hq]
    rfl
  · have hv : s.view = s.emitted := by
      rw [Sys.view, hpc]
      exact List.append_nil _
    rw [hv] at hp
    exact whole_of_run hp fun he => h.exited hpc t (hlive.1 he)

/-! ## A late release -/

def backKey : PressKey := ⟨.osHook 0, .button .back⟩

def backPress : PressToken := ⟨1, backKey, 0⟩

/-- A long press is held past its threshold and released; `queued` gets in the queue before the release.  The worker
then takes `works` steps. -/
def heldPast (queued : List Ev) (works : Nat) : List Ev :=
  [.work, .work, .call (.down backKey (some (.longPress .copy .paste)) .keyboard 0), .send 0] ++
    List.replicate 7 .work ++ [.tick 500000000] ++ queued ++ [.call (.up backKey 500000000), .send 0] ++
    List.replicate works .work

theorem late_release_in_order : ∃ s, run step {} (heldPast [] 12 ++ [.requestShutdown, .work]) = some s ∧
    (∃ w, Whole w ∧ marks backPress s.emitted <+: w) ∧
      (s.pc = .exited → marks backPress s.emitted = [] ∨ Whole (marks backPress s.emitted)) := by
  obtain ⟨s, hs⟩ := Option.isSome_iff_exists.1
    (show (run step {} (heldPast [] 12 ++ [.requestShutdown, .work])).isSome by decide)
  exact ⟨s, hs, lifecycle_of_in_order _ s (by decide) hs backPress⟩

/-- A gesture of the press is queued before its late release: its action is triggered after the press has ended. -/
theorem gesture_after_end : ∃ s,
    run step {} (heldPast [.call (.triggerWhilePressed backPress .cut), .send 0] 17) = some s ∧
    ¬ ∃ w, Whole w ∧ marks backPress s.emitted <+: w := by
  have hrun : ((run step {} (heldPast [.call (.triggerWhilePressed backPress .cut), .send 0] 17)).map fun s =>
      marks backPress s.emitted) = some [.start, .mid, .stop, .mid] := by decide
  obtain ⟨s, hs, hm⟩ := Option.map_eq_some_iff.1 hrun
  refine ⟨s, hs, fun h => ?_⟩
  rw [hm] at h
  cases run_fresh_isSome.2 h

end Button
end OpenLogi
