import OpenLogi.Lib.Framing
import OpenLogi.Lib.Sweep
import OpenLogi.Scroll.Engine
/-!
# Framing — the frames of the shared stream

Whatever the sources do, the frames on the stream are whole gestures of one kind each, the last one open exactly while
the stream is active.  Steps and glides stay off it.
-/
namespace OpenLogi
namespace Scroll

open Lib (Mark run run_inv run_append)
open Lib.Framing (Cut next cut_iff_run)

variable {F : Type} [F64 F]

/-- Steps and glides are posted in pixels, off the stream. -/
def ScrollFrame.isOnStream (frame : ScrollFrame F) : Bool :=
  match frame.unit with
  | .ticks => true
  | .pixels _ => false

def ScrollFrame.mark (frame : ScrollFrame F) : Mark :=
  match frame.phase with
  | .began => .start
  | .changed => .mid
  | .ended | .cancelled => .stop

/-- The kind of the gesture that the stream has open. -/
def OutputStream.opened : OutputStream → Option FrameKind
  | .idle => none
  | .active phased => some (if phased then .phased else .eased)

namespace ScrollEngine

/-- The frames on the stream, in order. -/
def stream (e : ScrollEngine F) : List (ScrollFrame F) := (e.emitted.map Prod.snd).filter ScrollFrame.isOnStream

/-- The frames on the stream that are emitted for `source`. -/
def streamOf (e : ScrollEngine F) (source : ScrollSource) : List (ScrollFrame F) :=
  ((e.emitted.filter fun row => row.1 = some source).map Prod.snd).filter ScrollFrame.isOnStream

/-- The stream is followed frame by frame up to the gesture it has open. -/
def Framed (e : ScrollEngine F) : Prop :=
  run (next ScrollFrame.mark ScrollFrame.kind) none e.stream = some e.output.opened

end ScrollEngine

open ScrollEngine

/-! ## The stream's own operations -/

/-- What an operation of the stream emits leads from the gesture that was open to the one it leaves. -/
def Follows (s : OutputStream) (out : List (ScrollFrame F) × OutputStream) : Prop :=
  (∀ frame ∈ out.1, frame.isOnStream = true) ∧
    run (next ScrollFrame.mark ScrollFrame.kind) s.opened out.1 = some out.2.opened

theorem follows_progress (s : OutputStream) (delta : WheelDelta F) (phased : Bool) :
    Follows s (s.progress delta phased) := by
  unfold OutputStream.progress
  split
  · exact ⟨by simp, rfl⟩
  · cases s with
    | idle => exact ⟨by simp [ScrollFrame.new, ScrollFrame.isOnStream], rfl⟩
    | active phased' =>
      refine ⟨by simp [ScrollFrame.new, ScrollFrame.isOnStream], ?_⟩
      cases phased' <;> rfl

theorem follows_finish (s : OutputStream) (delta : WheelDelta F) (phased : Bool) :
    Follows s (s.finish delta phased) := by
  cases s with
  | idle =>
    unfold OutputStream.finish Follows
    dsimp only
    split
    · exact ⟨by simp, rfl⟩
    · refine ⟨by simp [ScrollFrame.new, ScrollFrame.isOnStream], ?_⟩
      cases phased <;> rfl
  | active phased' =>
    refine ⟨by simp [OutputStream.finish, ScrollFrame.new, ScrollFrame.isOnStream], ?_⟩
    cases phased' <;> rfl

theorem follows_cancel (s : OutputStream) : Follows (F := F) s s.cancel := by
  cases s with
  | idle => exact ⟨by simp [OutputStream.cancel], rfl⟩
  | active phased =>
    refine ⟨by simp [OutputStream.cancel, ScrollFrame.new, ScrollFrame.isOnStream], ?_⟩
    cases phased <;> rfl

theorem stream_emit (e : ScrollEngine F) (source : Option ScrollSource) (frames : List (ScrollFrame F)) :
    (e.emit source frames).stream = e.stream ++ frames.filter ScrollFrame.isOnStream := by
  simp [ScrollEngine.stream, ScrollEngine.emit, Function.comp_def]

variable {e : ScrollEngine F} {frame : ScrollFrame F}

theorem framed_onStream {source : Option ScrollSource} {out : List (ScrollFrame F) × OutputStream} (h : e.Framed)
    (hf : Follows e.output out) : (e.onStream source out).Framed := by
  have hs : (e.onStream source out).stream = e.stream ++ out.1 := by
    show (e.emit source out.1).stream = _
    rw [stream_emit, List.filter_eq_self.2 hf.1]
  unfold ScrollEngine.Framed
  rw [hs, run_append, h, Option.bind_some]
  exact hf.2

/-- Steps and glides leave the stream as it is. -/
theorem framed_emit {source : Option ScrollSource} {frames : List (ScrollFrame F)} (h : e.Framed)
    (hf : ∀ frame ∈ frames, frame.isOnStream = false) : (e.emit source frames).Framed := by
  unfold ScrollEngine.Framed
  rw [stream_emit, List.filter_eq_nil_iff.2 fun frame hm => by simp [hf frame hm], List.append_nil]
  exact h

/-! ## The engine's operations -/

theorem framed_emitUpdate (h : e.Framed) (source : ScrollSource) (update : MotionUpdate F) (pixels : Option F) :
    (e.emitUpdate source update pixels).Framed := by
  unfold ScrollEngine.emitUpdate
  split
  · refine framed_emit h fun frame hm => ?_
    split at hm
    · cases hm
    · rw [List.mem_singleton.1 hm]
      rfl
  · split
    · exact framed_onStream h (follows_finish _ _ _)
    · exact framed_onStream h (follows_progress _ _ _)

theorem framed_settle (h : e.Framed) (source : ScrollSource) (now : Nat) (pixels : Option F) :
    (e.settle source now pixels).Framed := by
  unfold ScrollEngine.settle
  split
  · exact h
  · split
    · refine framed_emitUpdate ?_ source _ pixels
      exact h
    · exact h

theorem framed_impulse (h : e.Framed) (source : ScrollSource) (impulse : WheelDelta F) (now : Nat) :
    (e.impulse source impulse now).Framed := by
  have hs := framed_settle h source now (e.pixelsFor source)
  unfold ScrollEngine.impulse
  dsimp only
  split
  · exact hs
  · refine framed_emitUpdate ?_ source _ _
    exact hs

theorem framed_dropMotion (h : e.Framed) (source : ScrollSource) :
    (e.dropMotion source).Framed := by
  unfold ScrollEngine.dropMotion
  split
  · exact h
  · dsimp only
    split
    · exact framed_onStream h (follows_cancel _)
    · exact h

theorem framed_stopWheel (h : e.Framed) (source : ScrollSource) (now : Nat) :
    (e.stopWheel source now).Framed := by
  unfold ScrollEngine.stopWheel
  dsimp only
  split
  · exact framed_dropMotion h source
  · refine framed_dropMotion ?_ source
    exact h

theorem advance_offStream {g : Glide F} {now : Nat} {perTick : F} (h : (g.advance now perTick).1 = some frame) :
    frame.isOnStream = false := by
  unfold Glide.advance at h
  dsimp only at h
  split at h
  · cases h
  · dsimp only at h
    split at h
    · cases h
      rfl
    · cases h

theorem push_offStream {s : WheelState F} {momentum : MomentumParams F} {now : Nat}
    (h : (s.push momentum now).1 = some frame) : frame.isOnStream = false := by
  unfold WheelState.push at h
  dsimp only at h
  split at h
  · split at h
    · exact advance_offStream h
    · cases h
  · cases h
  · cases h

theorem advanceGlide_offStream {s : WheelState F} {glide : Glide F} {now : Nat}
    (h : (s.advanceGlide glide now).1 = some frame) : frame.isOnStream = false := by
  unfold WheelState.advanceGlide at h
  dsimp only at h
  split at h
  · cases h
  · exact advance_offStream h

theorem framed_wheelTick (h : e.Framed) (source : ScrollSource) (tick : WheelTick F) (now : Nat)
    (momentum : MomentumParams F) : (e.wheelTick source tick now momentum).Framed := by
  unfold ScrollEngine.wheelTick
  dsimp only
  split
  · refine framed_emit ?_ fun frame hm => push_offStream (Option.mem_toList.1 hm)
    exact h
  · split
    · refine framed_impulse ?_ source _ now
      exact h
    · refine framed_dropMotion ?_ source
      exact h
    · exact h
    · refine framed_stopWheel ?_ source now
      exact h

theorem framed_wheelImpulse (h : e.Framed) (source : ScrollSource) (impulse : WheelDelta F) (notches : F)
    (momentum : Option (MomentumParams F)) (now : Nat) :
    (e.wheelImpulse source impulse notches momentum now).Framed := by
  unfold ScrollEngine.wheelImpulse
  split
  · refine framed_impulse ?_ source impulse now
    exact h
  · split
    · exact framed_impulse h source impulse now
    · dsimp only
      split
      · refine framed_wheelTick ?_ source _ now _
        exact h
      · exact h
      · refine Lib.foldl_keeps ScrollEngine.Framed (fun _ tick he => framed_wheelTick he source tick now _) _ _ ?_
        exact h

theorem framed_advanceWheel (now : Nat) (h : e.Framed) (source : ScrollSource) :
    (advanceWheel now e source).Framed := by
  unfold advanceWheel
  split
  · exact h
  · split
    · exact h
    all_goals
      dsimp only
      split
      · refine framed_stopWheel ?_ source now
        exact h
      · refine framed_emit ?_ fun frame hm => advanceGlide_offStream (Option.mem_toList.1 hm)
        exact h
      · refine framed_emit ?_ fun frame hm => advanceGlide_offStream (Option.mem_toList.1 hm)
        exact h
      · exact h
      · exact h

theorem framed_advanceMotion (now : Nat) (h : e.Framed) (source : ScrollSource) :
    (advanceMotion now e source).Framed := by
  unfold advanceMotion
  split
  · exact h
  · refine framed_emitUpdate ?_ source _ _
    exact h

theorem framed_endIdlePhased (h : e.Framed) (now : Nat) : (e.endIdlePhased now).Framed := by
  unfold ScrollEngine.endIdlePhased
  dsimp only
  split
  · exact framed_onStream h (follows_finish _ _ _)
  · exact h

theorem framed_phasedImpulse (h : e.Framed) (source : ScrollSource) (impulse : WheelDelta F) (now : Nat) :
    (e.phasedImpulse source impulse now).Framed :=
  framed_onStream (framed_endIdlePhased h now) (follows_progress _ _ _)

theorem framed_advanceDue (h : e.Framed) (now : Nat) : (e.advanceDue now).Framed :=
  Lib.foldl_keeps ScrollEngine.Framed (fun _ source he => framed_advanceMotion now he source) _ _
    (Lib.foldl_keeps ScrollEngine.Framed (fun _ source he => framed_advanceWheel now he source) _ _
      (framed_endIdlePhased h now))

theorem framed_cancelWhere (h : e.Framed) (cancelled : ScrollSource → Bool) :
    (e.cancelWhere cancelled).Framed := by
  unfold ScrollEngine.cancelWhere
  dsimp only
  split
  · exact framed_onStream h (follows_cancel _)
  · exact h

theorem framed_step {e' : ScrollEngine F} {op : Op F} (h : e.Framed) (hs : step e op = some e') : e'.Framed := by
  cases op with
  | wheelImpulse source impulse notches momentum now =>
    cases hs
    exact framed_wheelImpulse h source impulse notches momentum now
  | impulse source impulse now =>
    cases hs
    exact framed_impulse h source impulse now
  | phasedImpulse source impulse now =>
    cases hs
    exact framed_phasedImpulse h source impulse now
  | endIdlePhased now =>
    cases hs
    exact framed_endIdlePhased h now
  | advanceDue now =>
    cases hs
    exact framed_advanceDue h now
  | cancelSource source =>
    cases hs
    exact framed_cancelWhere h _
  | cancelSession session =>
    cases hs
    exact framed_cancelWhere h _
  | cancelAll =>
    cases hs
    exact framed_onStream h (follows_cancel _)
  | rehash active wheels =>
    dsimp only [step] at hs
    split at hs
    · cases hs
      exact h
    · cases hs

theorem framed_run (ops : List (Op F)) (e : ScrollEngine F) (hr : run step {} ops = some e) : e.Framed :=
  run_inv ScrollEngine.Framed (fun _ _ _ h hs => framed_step h hs) ops {} e rfl hr

/-- **The stream is whole gestures, each of one kind**, and one more of its kind where the output is active. -/
theorem stream_framed (ops : List (Op F)) (e : ScrollEngine F) (hr : run step {} ops = some e) :
    Cut ScrollFrame.mark ScrollFrame.kind e.output.opened e.stream :=
  cut_iff_run.2 (framed_run ops e hr)

/-! ### Two thumb wheels at once -/

section

attribute [local instance] plainRationals

def thumb (device : String) : ScrollSource := .hidpp ⟨device, 1⟩ .thumb

def twoThumbs : List (Op ℚ) := [.phasedImpulse (thumb "a") ⟨1, 0⟩ 0, .phasedImpulse (thumb "b") ⟨1, 0⟩ (millis 10)]

/-- The two wheels share one gesture. -/
theorem two_thumbs_framed : ∃ e, run step {} (twoThumbs ++ [.advanceDue (millis 200)]) = some e ∧
    e.stream.map ScrollFrame.phase = [.began, .changed, .ended] ∧
    Cut ScrollFrame.mark ScrollFrame.kind e.output.opened e.stream := by
  obtain ⟨e, he⟩ := Option.isSome_iff_exists.1
    (show (run step {} (twoThumbs ++ [.advanceDue (millis 200)])).isSome = true by decide)
  have hp : (run step {} (twoThumbs ++ [.advanceDue (millis 200)])).map (fun e => e.stream.map ScrollFrame.phase) =
      some [.began, .changed, .ended] := by decide
  rw [he] at hp
  exact ⟨e, he, Option.some.inj hp, stream_framed _ e he⟩

/-- **The frames of one source are no gestures of its own**: the second wheel's first frame goes on with the first's. -/
theorem second_thumb_changes : ∃ e, run step {} twoThumbs = some e ∧
    ∀ opened, ¬ Cut ScrollFrame.mark ScrollFrame.kind opened (e.streamOf (thumb "b")) := by
  obtain ⟨e, he⟩ := Option.isSome_iff_exists.1 (show (run step {} twoThumbs).isSome = true by decide)
  have hp : (run step {} twoThumbs).map (fun e => e.streamOf (thumb "b")) =
      some [⟨⟨1, 0⟩, .changed, .phased, .ticks⟩] := by decide
  rw [he] at hp
  refine ⟨e, he, fun opened h => ?_⟩
  rw [show e.streamOf (thumb "b") = _ from Option.some.inj hp, cut_iff_run] at h
  cases h

end

end Scroll
end OpenLogi
