import Mathlib.Tactic.Abel
import Mathlib.Tactic.Ring
import Mathlib.Tactic.Linarith
import Mathlib.Tactic.Positivity
import OpenLogi.Scroll.Bounce
import OpenLogi.Scroll.Closed
/-!
# Distance — what a motion scrolls is what it was given

`told` says what an operation does to the motion of one source: which impulses it is given, and whether it is dropped
unfinished.  Over exact rationals what was emitted for a source and what its motion still owes grow by what it is given,
however frames and retargets cut the motion.
-/
namespace OpenLogi
namespace Scroll

open Lib (Table run)

/-! ## What a motion is told -/

section Told

variable {F : Type} [F64 F]

inductive Told (F : Type) where
  | impulse (delta : WheelDelta F)
  | dropped

def Told.isDropped : Told F → Bool
  | .impulse _ => false
  | .dropped => true

namespace ScrollEngine

/-- A tick of a ratcheting wheel is eased; a launch, or a wheel found stopped, drops the motion. -/
def tickTold (e : ScrollEngine F) (source : ScrollSource) (tick : WheelTick F) (now : Nat)
    (momentum : MomentumParams F) : List (Told F) :=
  let state := e.wheel source momentum
  let state := { state with detector := state.detector.report now tick.notches }
  let direction := Direction.of tick.impulse.y
  if state.pushedWhileGliding direction now then []
  else match state.detector.phase, state.glide, direction with
    | .ratchet, _, _ => [.impulse tick.impulse]
    | .freeSpin, .idle _, some _ => [.dropped]
    | .freeSpin, _, _ => []
    | .stopped _, _, _ => [.dropped]

def ticksTold (e : ScrollEngine F) (source : ScrollSource) (now : Nat) (momentum : MomentumParams F) :
    List (WheelTick F) → List (Told F)
  | [] => []
  | tick :: ticks => e.tickTold source tick now momentum ++
      (e.wheelTick source tick now momentum).ticksTold source now momentum ticks

/-- The ticks that the spring-back lock lets through, and the wheel with what it holds. -/
def lockTick (e : ScrollEngine F) (source : ScrollSource) (impulse : WheelDelta F) (notches : F)
    (momentum : MomentumParams F) (now : Nat) : List (WheelTick F) × ScrollEngine F :=
  let state := { e.wheel source momentum with momentum := momentum }
  let lock := if state.detector.phase = .ratchet then 0 else springBackLock
  let (admitted, springBack) := state.springBack.admitTick notches now lock ⟨impulse, notches⟩
  (admitted.scrolls, e.putWheel source { state with springBack := springBack })

def wheelTold (e : ScrollEngine F) (source : ScrollSource) (impulse : WheelDelta F) (notches : F)
    (momentum : Option (MomentumParams F)) (now : Nat) : List (Told F) :=
  match momentum with
  | none => [.impulse impulse]
  | some momentum =>
    if F64.eq notches (F64.lit 0) then [.impulse impulse]
    else
      let (ticks, e) := e.lockTick source impulse notches momentum now
      e.ticksTold source now momentum ticks

/-- A frame of a glide whose wheel is found stopped drops what is left of the wheel's motion. -/
def frameTold (e : ScrollEngine F) (source : ScrollSource) (now : Nat) : List (Told F) :=
  match e.wheels.get? source with
  | none => []
  | some (_, state) =>
    match state.glide with
    | .spent _ _ => []
    | .idle _ | .gliding _ =>
      match (state.detector.tick now).phase with
      | .stopped _ => [.dropped]
      | .ratchet | .freeSpin => []

/-- The frames of the wheels in turn, as they concern the motion of `source`. -/
def framesTold (source : ScrollSource) (now : Nat) (e : ScrollEngine F) : List ScrollSource → List (Told F)
  | [] => []
  | wheel :: wheels => (if wheel = source then e.frameTold source now else []) ++
      framesTold source now (advanceWheel now e wheel) wheels

/-- The wheels that a frame looks at. -/
def gliding (e : ScrollEngine F) : List ScrollSource :=
  (e.wheels.rows.filter fun row => row.2.glide.nextTick.isSome).map Prod.fst

end ScrollEngine

/-- What an operation tells the motion of `source`. -/
def told (e : ScrollEngine F) (source : ScrollSource) : Op F → List (Told F)
  | .wheelImpulse own impulse notches momentum now =>
    if own = source then e.wheelTold own impulse notches momentum now else []
  | .impulse own impulse _ => if own = source then [.impulse impulse] else []
  | .phasedImpulse own impulse _ => if own = source then [.impulse impulse] else []
  | .endIdlePhased _ => []
  | .advanceDue now => ScrollEngine.framesTold source now (e.endIdlePhased now) (e.endIdlePhased now).gliding
  | .cancelSource own => if own = source then [.dropped] else []
  | .cancelSession session => if source.inSession session then [.dropped] else []
  | .cancelAll => [.dropped]
  | .rehash _ _ => []

end Told

/-! ## Exact distances -/

def WheelDelta.ticks (d : WheelDelta ℚ) : ℚ × ℚ := (d.x, d.y)

/-- The wheel ticks that a frame stands for. -/
def ScrollFrame.distance (frame : ScrollFrame ℚ) : ℚ × ℚ :=
  match frame.unit with
  | .ticks => frame.delta.ticks
  | .pixels perTick => (frame.delta.x / perTick, frame.delta.y / perTick)

/-- The distance of some frames, those of glides left out. -/
def scrolled (frames : List (ScrollFrame ℚ)) : ℚ × ℚ :=
  ((frames.filter fun frame => frame.kind ≠ .glide).map ScrollFrame.distance).sum

/-- The distance emitted for a source, glides left out. -/
def scrolledFor (source : ScrollSource) (log : List (Option ScrollSource × ScrollFrame ℚ)) : ℚ × ℚ :=
  scrolled ((log.filter fun row => row.1 = some source).map Prod.snd)

def Told.ticks : Told ℚ → ℚ × ℚ
  | .impulse delta => delta.ticks
  | .dropped => 0

/-- The sum of the impulses given. -/
def given (told : List (Told ℚ)) : ℚ × ℚ := (told.map Told.ticks).sum

theorem scrolled_append (frames more : List (ScrollFrame ℚ)) :
    scrolled (frames ++ more) = scrolled frames + scrolled more := by
  unfold scrolled
  rw [List.filter_append, List.map_append, List.sum_append]

theorem given_append (told more : List (Told ℚ)) : given (told ++ more) = given told + given more := by
  unfold given
  rw [List.map_append, List.sum_append]

theorem distance_new (delta : WheelDelta ℚ) (phase : SmoothScrollPhase) (phased : Bool) :
    scrolled [ScrollFrame.new delta phase phased] = delta.ticks := by
  cases phased <;> exact add_zero _

theorem ite_append (c : Prop) [Decidable c] {α : Type} (xs ys : List α) :
    (if c then xs ++ ys else []) = (if c then xs else []) ++ if c then ys else [] := by
  by_cases hc : c
  · rw [if_pos hc, if_pos hc, if_pos hc]
  · rw [if_neg hc, if_neg hc, if_neg hc]
    rfl

/-- The functions of `f64` that have no rational value, whatever they answer. -/
class Exponentials where
  exp : ℚ → ℚ
  powf : ℚ → ℚ → ℚ

abbrev rationals [Exponentials] : F64 ℚ := exactRationals Exponentials.exp Exponentials.powf

section Exact

attribute [local instance] rationals

variable [Exponentials]

namespace WheelDelta

theorem ticks_zero : (zero : WheelDelta ℚ).ticks = 0 := rfl

theorem ticks_plus (d e : WheelDelta ℚ) : (d.plus e).ticks = d.ticks + e.ticks := rfl

theorem ticks_minus (d e : WheelDelta ℚ) : (d.minus e).ticks = d.ticks - e.ticks := rfl

theorem ticks_of_isZero {d : WheelDelta ℚ} (h : d.isZero = true) : d.ticks = 0 := by
  rw [isZero, Bool.and_eq_true] at h
  exact Prod.ext (of_decide_eq_true h.1) (of_decide_eq_true h.2)

theorem eq_ticks {d e : WheelDelta ℚ} (h : d.eq e = true) : d.ticks = e.ticks := by
  rw [eq, Bool.and_eq_true] at h
  exact Prod.ext (of_decide_eq_true h.1) (of_decide_eq_true h.2)

end WheelDelta

theorem scrolledFor_emit (source : ScrollSource) (e : ScrollEngine ℚ) (own : Option ScrollSource)
    (frames : List (ScrollFrame ℚ)) :
    scrolledFor source (e.emit own frames).emitted =
      scrolledFor source e.emitted + if own = some source then scrolled frames else 0 := by
  unfold scrolledFor ScrollEngine.emit
  dsimp only
  rw [List.filter_append, List.map_append, scrolled_append]
  congr 1
  by_cases hown : own = some source
  · rw [if_pos hown, List.filter_eq_self.2, List.map_map]
    · exact congrArg scrolled (List.map_id frames)
    · intro row hrow
      obtain ⟨frame, -, rfl⟩ := List.mem_map.1 hrow
      exact decide_eq_true hown
  · rw [if_neg hown, List.filter_eq_nil_iff.2]
    · rfl
    · intro row hrow
      obtain ⟨frame, -, rfl⟩ := List.mem_map.1 hrow
      simpa using hown

/-! ## One motion -/

/-- What a motion has yet to emit. -/
def ActiveMotion.owes (m : ActiveMotion ℚ) : ℚ × ℚ := m.segment.target.ticks - m.emitted.ticks

/-- What is owed once an evaluation is emitted. -/
def MotionUpdate.owes (update : MotionUpdate ℚ) (m : ActiveMotion ℚ) : ℚ × ℚ :=
  if update.isFinished then 0 else m.owes

theorem Easing.ease_of_complete (easing : Easing) {progress : ℚ} (h : 1 ≤ progress) :
    easing.ease progress = (1 : ℚ) := by
  have hclamp : F64.clamp progress (F64.lit 0) (F64.lit 1) = (1 : ℚ) := by
    change (if progress < 0 then (0 : ℚ) else if 1 < progress then 1 else progress) = 1
    rw [if_neg (by linarith)]
    split
    · rfl
    · linarith
  unfold Easing.ease
  dsimp only
  rw [hclamp]
  cases easing with
  | smooth =>
    change (1 : ℚ) * 1 * (3 - 2 * 1) = 1
    norm_num
  | crisp => rfl

theorem MotionSegment.progress_of_complete {s : MotionSegment ℚ} {now : Nat} (h : s.isCompleteAt now = true) :
    (1 : ℚ) ≤ F64.secs (now - s.startedAt) / F64.secs s.easing.duration := by
  have hends : s.startedAt + s.easing.duration ≤ now := of_decide_eq_true h
  have hpos : 0 < s.easing.duration := by cases s.easing <;> decide
  have hle : s.easing.duration ≤ now - s.startedAt := by omega
  change (1 : ℚ) ≤ ((now - s.startedAt : ℕ) : ℚ) / 1000000000 / ((s.easing.duration : ℚ) / 1000000000)
  have hposq : (0 : ℚ) < (s.easing.duration : ℚ) / 1000000000 := by positivity
  rw [one_le_div hposq]
  have hleq : (s.easing.duration : ℚ) ≤ ((now - s.startedAt : ℕ) : ℚ) := by exact_mod_cast hle
  linarith

/-- **A completed segment is at its target.** -/
theorem MotionSegment.ticks_positionAt {s : MotionSegment ℚ} {now : Nat} (h : s.isCompleteAt now = true) :
    (s.positionAt now).ticks = s.target.ticks := by
  unfold MotionSegment.positionAt
  dsimp only
  rw [s.easing.ease_of_complete (s.progress_of_complete h)]
  change (s.start.x + (s.target.x - s.start.x) * 1, s.start.y + (s.target.y - s.start.y) * 1) = (s.target.x, s.target.y)
  rw [mul_one, mul_one, add_sub_cancel, add_sub_cancel]

namespace ActiveMotion

theorem owes_new (impulse : WheelDelta ℚ) (now : Nat) (easing : Easing) :
    (ActiveMotion.new impulse now easing).owes = impulse.ticks := by
  unfold ActiveMotion.owes ActiveMotion.new
  dsimp only
  rw [WheelDelta.ticks_zero, sub_zero]

/-- **A retarget loses nothing**: what it emits and what is then owed is what was owed and the impulse. -/
theorem owes_retarget (m : ActiveMotion ℚ) (impulse : WheelDelta ℚ) (now : Nat) (easing : Easing) :
    (m.retarget impulse now easing).1.delta.ticks +
        (m.retarget impulse now easing).1.owes (m.retarget impulse now easing).2 =
      m.owes + impulse.ticks := by
  unfold retarget deltaTo
  dsimp only
  by_cases htarget : ((m.segment.target.plus impulse).eq (m.segment.positionAt now)) = true
  · rw [if_pos htarget]
    unfold MotionUpdate.owes MotionUpdate.isFinished MotionUpdate.delta
    dsimp only
    rw [if_pos rfl, add_zero, WheelDelta.ticks_minus, ← WheelDelta.eq_ticks htarget, WheelDelta.ticks_plus]
    unfold owes
    abel
  · rw [if_neg htarget]
    unfold MotionUpdate.owes MotionUpdate.isFinished MotionUpdate.delta owes
    dsimp only
    rw [if_neg Bool.false_ne_true, WheelDelta.ticks_minus, WheelDelta.ticks_plus]
    abel

/-- **A frame loses nothing**: what it emits and what is then owed is what was owed. -/
theorem owes_advance (m : ActiveMotion ℚ) (now : Nat) :
    (m.advance now).1.delta.ticks + (m.advance now).1.owes (m.advance now).2 = m.owes := by
  unfold advance deltaTo
  dsimp only
  by_cases hcomplete : m.segment.isCompleteAt now = true
  · rw [if_pos hcomplete]
    unfold MotionUpdate.owes MotionUpdate.isFinished MotionUpdate.delta
    dsimp only
    rw [if_pos rfl, add_zero, WheelDelta.ticks_minus, m.segment.ticks_positionAt hcomplete]
    rfl
  · rw [if_neg hcomplete]
    unfold MotionUpdate.owes MotionUpdate.isFinished MotionUpdate.delta owes
    dsimp only
    rw [if_neg Bool.false_ne_true, WheelDelta.ticks_minus]
    abel

end ActiveMotion

/-! ## The stream -/

theorem distance_step (delta : WheelDelta ℚ) {perTick : ℚ} (h : perTick ≠ 0) :
    scrolled [ScrollFrame.step delta perTick] = delta.ticks := by
  refine (add_zero _).trans (Prod.ext ?_ ?_)
  · exact mul_div_cancel_right₀ delta.x h
  · exact mul_div_cancel_right₀ delta.y h

theorem scrolled_progress (s : OutputStream) (delta : WheelDelta ℚ) (phased : Bool) :
    scrolled (s.progress delta phased).1 = delta.ticks := by
  unfold OutputStream.progress
  by_cases hzero : delta.isZero = true
  · rw [if_pos hzero, WheelDelta.ticks_of_isZero hzero]
    rfl
  · rw [if_neg hzero]
    cases s <;> exact distance_new delta _ _

theorem scrolled_finish (s : OutputStream) (delta : WheelDelta ℚ) (phased : Bool) :
    scrolled (s.finish delta phased).1 = delta.ticks := by
  unfold OutputStream.finish
  cases s with
  | active own => exact distance_new delta _ _
  | idle =>
    dsimp only
    by_cases hzero : delta.isZero = true
    · rw [if_pos hzero, WheelDelta.ticks_of_isZero hzero]
      rfl
    · rw [if_neg hzero]
      have hended := scrolled_append [ScrollFrame.new delta .began phased] [.new .zero .ended phased]
      rw [distance_new, distance_new, WheelDelta.ticks_zero, add_zero] at hended
      exact hended

theorem scrolled_cancel (s : OutputStream) : scrolled (OutputStream.cancel (F := ℚ) s).1 = 0 := by
  cases s with
  | idle => rfl
  | active phased => exact distance_new .zero _ _

/-! ## The account of a source -/

namespace ScrollEngine

variable {e e' e'' : ScrollEngine ℚ} {source own : ScrollSource}

/-- Pixels per tick are never zero. -/
def Sized (e : ScrollEngine ℚ) : Prop := ∀ row ∈ e.wheels, row.2.momentum.pixelsPerNotch ≠ 0

def owes (e : ScrollEngine ℚ) (source : ScrollSource) : ℚ × ℚ := (e.active.get? source).elim 0 fun row => row.2.owes

/-- What was emitted for a source, and what its motion has yet to emit. -/
def account (e : ScrollEngine ℚ) (source : ScrollSource) : ℚ × ℚ := scrolledFor source e.emitted + e.owes source

theorem pixelsFor_ne_zero (h : e.Sized) (source : ScrollSource) : e.pixelsFor source ≠ some 0 := by
  intro hpixels
  obtain ⟨row, hrow, hzero⟩ := Option.map_eq_some_iff.1 hpixels
  exact h row (Table.mem_of_get? hrow).1 hzero

/-- What an operation told the motion of `source`, and what it did to its account. -/
structure Accounts (source : ScrollSource) (e : ScrollEngine ℚ) (told : List (Told ℚ)) (e' : ScrollEngine ℚ) :
    Prop where
  sized : e.Sized → e'.Sized
  balance : e.Sized → (∀ t ∈ told, t.isDropped = false) → e'.account source = e.account source + given told

theorem Accounts.refl (source : ScrollSource) (e : ScrollEngine ℚ) : Accounts source e [] e :=
  ⟨id, fun _ _ => (add_zero _).symm⟩

variable {told : List (Told ℚ)}

theorem Accounts.trans {more : List (Told ℚ)} (h : Accounts source e told e') (h' : Accounts source e' more e'') :
    Accounts source e (told ++ more) e'' where
  sized hsized := h'.sized (h.sized hsized)
  balance hsized hkept := by
    rw [h'.balance (h.sized hsized) fun t ht => hkept t (List.mem_append_right _ ht),
      h.balance hsized fun t ht => hkept t (List.mem_append_left _ ht), given_append, add_assoc]

theorem Accounts.after (h : Accounts source e [] e') (h' : Accounts source e' told e'') :
    Accounts source e told e'' := h.trans h'

/-- Nothing is said of a motion that is dropped. -/
theorem Accounts.drop (hdropped : .dropped ∈ told) (hsized : e.Sized → e'.Sized) :
    Accounts source e told e' where
  sized := hsized
  balance _ hkept := by cases hkept _ hdropped

/-- A source whose motion and frames are as they were. -/
theorem Accounts.same (hsized : e.Sized → e'.Sized)
    (hlog : scrolledFor source e'.emitted = scrolledFor source e.emitted)
    (hactive : e'.active.get? source = e.active.get? source) : Accounts source e [] e' where
  sized := hsized
  balance _ _ := by
    unfold account owes
    rw [hlog, hactive]
    exact (add_zero _).symm

theorem sized_putWheel (h : e.Sized) {state : WheelState ℚ} (hstate : state.momentum.pixelsPerNotch ≠ 0) :
    (e.putWheel source state).Sized := by
  intro row hrow
  rcases Table.mem_insert.1 hrow with rfl | ⟨hrow, -⟩
  · exact hstate
  · exact h row hrow

/-- Frames that scroll nothing, or are another source's. -/
theorem accounts_emit (e : ScrollEngine ℚ) {source : ScrollSource} (own : Option ScrollSource)
    (frames : List (ScrollFrame ℚ)) (h : own = some source → scrolled frames = 0) :
    Accounts source e [] (e.emit own frames) := by
  refine .same id ?_ rfl
  rw [scrolledFor_emit]
  by_cases hown : own = some source
  · rw [if_pos hown, h hown, add_zero]
  · rw [if_neg hown, add_zero]

theorem scrolledFor_emitUpdate (e : ScrollEngine ℚ) (source own : ScrollSource) (update : MotionUpdate ℚ)
    {pixels : Option ℚ} (hpixels : pixels ≠ some 0) :
    scrolledFor source (e.emitUpdate own update pixels).emitted =
      scrolledFor source e.emitted + if own = source then update.delta.ticks else 0 := by
  have hsome : ∀ frames : List (ScrollFrame ℚ), scrolled frames = update.delta.ticks →
      scrolledFor source (e.emit (some own) frames).emitted =
        scrolledFor source e.emitted + if own = source then update.delta.ticks else 0 := by
    intro frames hframes
    rw [scrolledFor_emit, hframes]
    by_cases hown : own = source
    · rw [if_pos (congrArg some hown), if_pos hown]
    · rw [if_neg fun h => hown (Option.some.inj h), if_neg hown]
  unfold emitUpdate
  cases pixels with
  | some perTick =>
    refine hsome _ ?_
    by_cases hzero : update.delta.isZero = true
    · rw [if_pos hzero, WheelDelta.ticks_of_isZero hzero]
      rfl
    · rw [if_neg hzero]
      exact distance_step update.delta fun h => hpixels (congrArg some h)
  | none =>
    dsimp only
    split
    · exact hsome _ (scrolled_finish _ _ _)
    · exact hsome _ (scrolled_progress _ _ _)

theorem active_emitUpdate (e : ScrollEngine ℚ) (own : ScrollSource) (update : MotionUpdate ℚ) (pixels : Option ℚ) :
    (e.emitUpdate own update pixels).active = e.active := by
  unfold emitUpdate
  split
  · rfl
  · split <;> rfl

theorem sized_emitUpdate (h : e.Sized) (own : ScrollSource) (update : MotionUpdate ℚ) (pixels : Option ℚ) :
    (e.emitUpdate own update pixels).Sized := by
  unfold Sized
  rw [emitUpdate_wheels]
  exact h

/-- **One evaluation of a motion**, accounted for where it and what it leaves add up. -/
theorem accounts_updated (source : ScrollSource) {motion motion' : ActiveMotion ℚ} (told : List (Told ℚ))
    (update : MotionUpdate ℚ)
    (hmotion : (e.active.get? own).map Prod.snd = some motion)
    (hadds : update.delta.ticks + update.owes motion' = motion.owes + given told) {pixels : Option ℚ}
    (hpixels : e.Sized → pixels ≠ some 0) :
    Accounts source e (if own = source then told else [])
      ({ e with active := e.updated own motion' update }.emitUpdate own update pixels) := by
  refine ⟨fun h => sized_emitUpdate (by exact h) _ _ _, fun hsized _ => ?_⟩
  unfold account owes
  rw [scrolledFor_emitUpdate _ _ _ _ (hpixels hsized), active_emitUpdate]
  dsimp only
  unfold updated
  by_cases hown : own = source
  · subst hown
    rw [if_pos rfl, if_pos rfl]
    obtain ⟨row, hrow, rfl⟩ := Option.map_eq_some_iff.1 hmotion
    rw [hrow]
    have hleft : (Table.get? (if update.isFinished = true then e.active.erase own
        else e.active.insert (own, motion')) own).elim 0 (fun row => row.2.owes) = update.owes motion' := by
      unfold MotionUpdate.owes
      cases update.isFinished with
      | true => rw [if_pos rfl, if_pos rfl, Table.get?_erase, if_pos rfl]; rfl
      | false => rw [if_neg Bool.false_ne_true, if_neg Bool.false_ne_true, Table.get?_insert, if_pos rfl]; rfl
    rw [hleft, add_assoc, hadds, ← add_assoc]
    rfl
  · rw [if_neg hown, if_neg hown, add_zero]
    have hother : Table.get? (if update.isFinished = true then e.active.erase own else e.active.insert (own, motion'))
        source = e.active.get? source := by
      split
      · rw [Table.get?_erase, if_neg hown]
      · rw [Table.get?_insert, if_neg hown]
    rw [hother]
    exact (add_zero _).symm

/-! ## The operations -/

theorem accounts_settle (e : ScrollEngine ℚ) (source own : ScrollSource) (now : Nat) :
    Accounts source e [] (e.settle own now (e.pixelsFor own)) := by
  unfold settle
  split
  · exact .refl source e
  · rename_i motion hmotion
    split
    · rename_i hcomplete
      have hfinished : (motion.advance now).1.isFinished = true := (motion.advance_isFinished now).trans hcomplete
      have hadds := (motion.owes_advance now).trans (add_zero _).symm
      have hupdated := accounts_updated source [] (motion.advance now).1
        (congrArg (Option.map Prod.snd) hmotion) hadds fun hsized => pixelsFor_ne_zero hsized own
      rw [updated, if_pos hfinished, ite_self] at hupdated
      exact hupdated
    · exact .refl source e

theorem accounts_impulse (e : ScrollEngine ℚ) (source own : ScrollSource) (delta : WheelDelta ℚ) (now : Nat) :
    Accounts source e (if own = source then [.impulse delta] else []) (e.impulse own delta now) := by
  have hsettle := accounts_settle e source own now
  have hpixels := settle_pixelsFor e own own now (e.pixelsFor own)
  unfold ScrollEngine.impulse
  dsimp only
  generalize e.settle own now (e.pixelsFor own) = settled at hsettle hpixels ⊢
  refine hsettle.after ?_
  rw [← hpixels]
  cases hmotion : settled.active.get? own with
  | none =>
    -- the first impulse of a motion
    refine ⟨fun h => h, fun _ _ => ?_⟩
    unfold account owes
    rw [Table.get?_insert, add_assoc]
    refine congrArg _ ?_
    by_cases hown : own = source
    · subst hown
      rw [if_pos rfl, if_pos rfl, hmotion]
      refine (ActiveMotion.owes_new _ _ _).trans ?_
      exact ((zero_add _).trans (add_zero _)).symm
    · rw [if_neg hown, if_neg hown]
      exact (add_zero _).symm
  | some row =>
    have hadds := row.2.owes_retarget delta now (if (settled.pixelsFor own).isSome then .crisp else .smooth)
    rw [← add_zero delta.ticks] at hadds
    exact accounts_updated source [.impulse delta] _ (congrArg (Option.map Prod.snd) hmotion) hadds fun hsized =>
      pixelsFor_ne_zero hsized own

theorem accounts_advanceMotion (source : ScrollSource) (now : Nat) (e : ScrollEngine ℚ) (own : ScrollSource) :
    Accounts source e [] (advanceMotion now e own) := by
  unfold advanceMotion
  split
  · exact .refl source e
  · rename_i motion hmotion
    have hadds := (motion.owes_advance now).trans (add_zero _).symm
    have hupdated := accounts_updated source [] (motion.advance now).1
      (congrArg (Option.map Prod.snd) hmotion) hadds fun hsized => pixelsFor_ne_zero hsized own
    rw [ite_self] at hupdated
    exact hupdated

theorem accounts_advanceSegments (e : ScrollEngine ℚ) (source : ScrollSource) (now : Nat) :
    Accounts source e [] (e.advanceSegments now) :=
  Lib.foldl_keeps (Accounts source e [])
    (fun _ own h => h.trans (accounts_advanceMotion source now _ own)) _ e (.refl source e)

theorem accounts_dropMotion (e : ScrollEngine ℚ) (source own : ScrollSource) :
    Accounts source e (if own = source then [.dropped] else []) (e.dropMotion own) := by
  have hsized : e.Sized → (e.dropMotion own).Sized := by
    unfold Sized
    rw [dropMotion_wheels]
    exact id
  by_cases hown : own = source
  · rw [if_pos hown]
    exact .drop (List.mem_singleton.2 rfl) hsized
  · rw [if_neg hown]
    unfold dropMotion at hsized ⊢
    split
    · exact .refl source e
    · dsimp only
      have herased : (e.active.erase own).get? source = e.active.get? source := by
        rw [Table.get?_erase, if_neg hown]
      split
      · have hcancel : Accounts source { e with active := e.active.erase own } []
            (emit { e with active := e.active.erase own } (some own) (OutputStream.cancel e.output).1) :=
          accounts_emit _ _ _ fun _ => scrolled_cancel e.output
        refine Accounts.after ?_ ⟨hcancel.sized, hcancel.balance⟩
        exact .same (by exact id) rfl herased
      · exact .same (by exact id) rfl herased

end ScrollEngine

/-! ## The wheels -/

theorem Glide.scrolled_advance (g : Glide ℚ) (now : Nat) (perTick : ℚ) :
    scrolled (g.advance now perTick).1.toList = 0 := by
  unfold Glide.advance
  dsimp only
  split
  · rfl
  · split <;> rfl

namespace WheelState

variable (s : WheelState ℚ) (now : Nat)

theorem momentum_endGlide (stop : GlideStop) : (s.endGlide now stop).momentum = s.momentum := by
  unfold endGlide
  split <;> rfl

theorem momentum_ratchet : (s.ratchet now).momentum = s.momentum := by
  unfold ratchet
  dsimp only
  split
  · exact momentum_endGlide s now .touched
  · exact momentum_endGlide s now .touched
  · exact momentum_endGlide s now .touched

theorem momentum_checkSpent (last : GlideEnd ℚ) (nextCheck : Nat) :
    (s.checkSpent last nextCheck now).momentum = s.momentum := by
  unfold checkSpent
  split
  · dsimp only
    split <;> rfl
  · rfl

theorem push_keeps (momentum : MomentumParams ℚ) :
    (s.push momentum now).2.momentum = s.momentum ∧ scrolled (s.push momentum now).1.toList = 0 := by
  unfold push
  dsimp only
  split
  · split
    · exact ⟨rfl, Glide.scrolled_advance _ _ _⟩
    · exact ⟨rfl, rfl⟩
  · exact ⟨rfl, rfl⟩
  · exact ⟨rfl, rfl⟩

theorem advanceGlide_keeps (glide : Glide ℚ) :
    (s.advanceGlide glide now).2.momentum = s.momentum ∧ scrolled (s.advanceGlide glide now).1.toList = 0 := by
  unfold advanceGlide
  dsimp only
  split
  · exact ⟨rfl, rfl⟩
  · refine ⟨?_, Glide.scrolled_advance _ _ _⟩
    dsimp only
    rw [apply_ite WheelState.momentum, momentum_endGlide, ite_self]

end WheelState

namespace ScrollEngine

variable {e e' e'' : ScrollEngine ℚ} {source own : ScrollSource}

theorem accounts_putWheel (source own : ScrollSource) {state : WheelState ℚ}
    (h : e.Sized → state.momentum.pixelsPerNotch ≠ 0) : Accounts source e [] (e.putWheel own state) :=
  .same (fun hsized => sized_putWheel hsized (h hsized)) rfl rfl

variable {momentum : MomentumParams ℚ}

theorem sized_wheel (h : e.Sized) (source : ScrollSource) (hmomentum : momentum.pixelsPerNotch ≠ 0) :
    (e.wheel source momentum).momentum.pixelsPerNotch ≠ 0 := by
  unfold wheel
  cases hget : e.wheels.get? source with
  | none => exact hmomentum
  | some row => exact h row (Table.mem_of_get? hget).1

theorem accounts_stopWheel (e : ScrollEngine ℚ) (source own : ScrollSource) (now : Nat) :
    Accounts source e (if own = source then [.dropped] else []) (e.stopWheel own now) := by
  unfold stopWheel
  cases hget : e.wheels.get? own with
  | none => exact accounts_dropMotion e source own
  | some row =>
    refine Accounts.after (accounts_putWheel source own fun hsized => ?_) (accounts_dropMotion _ source own)
    rw [WheelState.momentum_endGlide]
    exact hsized row (Table.mem_of_get? hget).1

/-- **One tick of a wheel.** -/
theorem accounts_wheelTick (e : ScrollEngine ℚ) (source own : ScrollSource) (tick : WheelTick ℚ) (now : Nat)
    (hmomentum : momentum.pixelsPerNotch ≠ 0) :
    Accounts source e (if own = source then e.tickTold own tick now momentum else [])
      (e.wheelTick own tick now momentum) := by
  have hput : ∀ state : WheelState ℚ, state.momentum = (e.wheel own momentum).momentum →
      Accounts source e [] (e.putWheel own state) := fun state hstate =>
    accounts_putWheel source own fun hsized => by
      rw [hstate]
      exact sized_wheel hsized own hmomentum
  unfold wheelTick tickTold
  dsimp only
  by_cases hpushed : WheelState.pushedWhileGliding { e.wheel own momentum with
      detector := (e.wheel own momentum).detector.report now tick.notches } (Direction.of tick.impulse.y) now = true
  · rw [if_pos hpushed, if_pos hpushed, ite_self]
    refine Accounts.after ?_ (accounts_emit _ _ _ fun _ => (WheelState.push_keeps _ now momentum).2)
    exact hput _ (WheelState.push_keeps _ now momentum).1
  · rw [if_neg hpushed, if_neg hpushed]
    clear hpushed
    cases ((e.wheel own momentum).detector.report now tick.notches).phase with
    | ratchet =>
      refine Accounts.after ?_ (accounts_impulse _ source own tick.impulse now)
      exact hput _ (WheelState.momentum_ratchet _ now)
    | stopped since =>
      refine Accounts.after ?_ (accounts_stopWheel _ source own now)
      exact hput _ rfl
    | freeSpin =>
      cases (e.wheel own momentum).glide with
      | gliding glide =>
        dsimp only
        rw [ite_self]
        exact hput _ rfl
      | spent last nextCheck =>
        dsimp only
        rw [ite_self]
        exact hput _ rfl
      | idle last =>
        cases Direction.of tick.impulse.y with
        | none =>
          dsimp only
          rw [ite_self]
          exact hput _ rfl
        | some direction =>
          refine Accounts.after ?_ (accounts_dropMotion _ source own)
          exact hput _ rfl

theorem accounts_wheelTicks (source own : ScrollSource) (now : Nat) (hmomentum : momentum.pixelsPerNotch ≠ 0) :
    ∀ (ticks : List (WheelTick ℚ)) (e : ScrollEngine ℚ),
      Accounts source e (if own = source then e.ticksTold own now momentum ticks else [])
        (ticks.foldl (fun e tick => e.wheelTick own tick now momentum) e)
  | [], e => by
    unfold ticksTold
    rw [ite_self]
    exact .refl source e
  | tick :: ticks, e => by
    unfold ticksTold
    rw [ite_append, List.foldl_cons]
    have hrest := accounts_wheelTicks source own now hmomentum ticks (e.wheelTick own tick now momentum)
    exact (accounts_wheelTick e source own tick now hmomentum).trans hrest

theorem wheelImpulse_lockTick (e : ScrollEngine ℚ) (own : ScrollSource) (delta : WheelDelta ℚ) {notches : ℚ}
    (momentum : MomentumParams ℚ) (now : Nat) (h : ¬F64.eq notches (F64.lit 0) = true) :
    e.wheelImpulse own delta notches (some momentum) now =
      (e.lockTick own delta notches momentum now).1.foldl (fun e tick => e.wheelTick own tick now momentum)
        (e.lockTick own delta notches momentum now).2 := by
  unfold wheelImpulse lockTick
  dsimp only
  rw [if_neg h]
  split
  · rename_i hdecided
    rw [hdecided]
    rfl
  · rename_i hdecided
    rw [hdecided]
    rfl
  · rename_i hdecided
    rw [hdecided]
    rfl

theorem accounts_wheelImpulse (e : ScrollEngine ℚ) (source own : ScrollSource) (delta : WheelDelta ℚ) (notches : ℚ)
    {momentum : Option (MomentumParams ℚ)} (now : Nat)
    (hmomentum : ∀ params, momentum = some params → params.pixelsPerNotch ≠ 0) :
    Accounts source e (if own = source then e.wheelTold own delta notches momentum now else [])
      (e.wheelImpulse own delta notches momentum now) := by
  cases momentum with
  | none =>
    have hoff : Accounts source e [] { e with wheels := e.wheels.erase own } :=
      .same (fun h row hrow => h row (Table.mem_erase.1 hrow).1) rfl rfl
    exact hoff.after (accounts_impulse _ source own delta now)
  | some momentum =>
    by_cases hnotches : F64.eq notches (F64.lit 0) = true
    · unfold wheelImpulse wheelTold
      dsimp only
      rw [if_pos hnotches, if_pos hnotches]
      exact accounts_impulse e source own delta now
    · rw [wheelImpulse_lockTick e own delta momentum now hnotches]
      unfold wheelTold
      dsimp only
      rw [if_neg hnotches]
      have hparams := hmomentum momentum rfl
      have hlock : Accounts source e [] (e.lockTick own delta notches momentum now).2 :=
        accounts_putWheel source own fun _ => hparams
      exact hlock.after (accounts_wheelTicks source own now hparams _ _)

/-! ## Frames and cancellations -/

theorem accounts_advanceWheel (source : ScrollSource) (now : Nat) (e : ScrollEngine ℚ) (own : ScrollSource) :
    Accounts source e (if own = source then e.frameTold own now else []) (advanceWheel now e own) := by
  unfold advanceWheel frameTold
  cases hget : e.wheels.get? own with
  | none =>
    dsimp only
    rw [ite_self]
    exact .refl source e
  | some row =>
    obtain ⟨key, state⟩ := row
    have hput : ∀ state' : WheelState ℚ, state'.momentum = state.momentum →
        Accounts source e [] (e.putWheel own state') :=
      fun state' hstate => accounts_putWheel source own fun hsized => by
        rw [hstate]
        exact hsized _ (Table.mem_of_get? hget).1
    dsimp only
    cases state.glide with
    | spent last nextCheck =>
      dsimp only
      rw [ite_self]
      exact hput _ (WheelState.momentum_checkSpent state now last nextCheck)
    | idle last =>
      dsimp only
      cases (state.detector.tick now).phase with
      | stopped since =>
        refine Accounts.after ?_ (accounts_stopWheel _ source own now)
        exact hput _ rfl
      | ratchet =>
        dsimp only
        rw [ite_self]
        exact hput _ rfl
      | freeSpin =>
        dsimp only
        rw [ite_self]
        exact hput _ rfl
    | gliding glide =>
      dsimp only
      cases (state.detector.tick now).phase with
      | stopped since =>
        refine Accounts.after ?_ (accounts_stopWheel _ source own now)
        exact hput _ rfl
      | ratchet =>
        dsimp only
        rw [ite_self]
        refine Accounts.after ?_ (accounts_emit _ _ _ fun _ => (WheelState.advanceGlide_keeps _ now glide).2)
        exact hput _ (WheelState.advanceGlide_keeps _ now glide).1
      | freeSpin =>
        dsimp only
        rw [ite_self]
        refine Accounts.after ?_ (accounts_emit _ _ _ fun _ => (WheelState.advanceGlide_keeps _ now glide).2)
        exact hput _ (WheelState.advanceGlide_keeps _ now glide).1

theorem accounts_wheels (source : ScrollSource) (now : Nat) : ∀ (wheels : List ScrollSource) (e : ScrollEngine ℚ),
    Accounts source e (framesTold source now e wheels) (wheels.foldl (advanceWheel now) e)
  | [], e => .refl source e
  | wheel :: wheels, e => by
    have hwheel := accounts_advanceWheel source now e wheel
    have htold : (if wheel = source then e.frameTold wheel now else []) =
        if wheel = source then e.frameTold source now else [] := by
      by_cases h : wheel = source
      · rw [h]
      · rw [if_neg h, if_neg h]
    rw [htold] at hwheel
    exact hwheel.trans (accounts_wheels source now wheels _)

theorem accounts_endIdlePhased (e : ScrollEngine ℚ) (source : ScrollSource) (now : Nat) :
    Accounts source e [] (e.endIdlePhased now) := by
  unfold endIdlePhased
  dsimp only
  split
  · have hlog : Accounts source { e with phased := e.phased.filter fun row => now < row.2 } []
        (emit { e with phased := e.phased.filter fun row => now < row.2 } none (e.output.finish .zero true).1) :=
      accounts_emit _ _ _ fun h => (by cases h)
    exact ⟨hlog.sized, hlog.balance⟩
  · exact .same id rfl rfl

theorem accounts_phasedImpulse (e : ScrollEngine ℚ) (source own : ScrollSource) (delta : WheelDelta ℚ) (now : Nat) :
    Accounts source e (if own = source then [.impulse delta] else []) (e.phasedImpulse own delta now) := by
  refine (accounts_endIdlePhased e source now).after ⟨fun h => h, fun _ _ => ?_⟩
  have hlog := scrolledFor_emit source (e.endIdlePhased now) (some own)
    ((e.endIdlePhased now).output.progress delta true).1
  rw [scrolled_progress] at hlog
  unfold phasedImpulse account
  refine (congrArg (· + (e.endIdlePhased now).owes source) hlog).trans ?_
  rw [add_right_comm]
  refine congrArg _ ?_
  by_cases hown : own = source
  · rw [if_pos (congrArg some hown), if_pos hown]
    exact (add_zero _).symm
  · rw [if_neg fun h => hown (Option.some.inj h), if_neg hown]
    rfl

theorem accounts_advanceDue (e : ScrollEngine ℚ) (source : ScrollSource) (now : Nat) :
    Accounts source e (framesTold source now (e.endIdlePhased now) (e.endIdlePhased now).gliding)
      (e.advanceDue now) := by
  rw [← List.append_nil (framesTold source now (e.endIdlePhased now) (e.endIdlePhased now).gliding)]
  refine Accounts.trans ?_ (accounts_advanceSegments _ source now)
  exact (accounts_endIdlePhased e source now).after (accounts_wheels source now _ _)

theorem sized_cancelWhere (h : e.Sized) (cancelled : ScrollSource → Bool) : (e.cancelWhere cancelled).Sized := by
  have hkept : ∀ row ∈ e.wheels.filter fun row => !cancelled row.1, row.2.momentum.pixelsPerNotch ≠ 0 :=
    fun row hrow => h row (Table.mem_filter.1 hrow).1
  unfold cancelWhere
  dsimp only
  split
  · exact hkept
  · exact hkept

theorem accounts_cancelWhere (e : ScrollEngine ℚ) (source : ScrollSource) (cancelled : ScrollSource → Bool) :
    Accounts source e (if cancelled source = true then [.dropped] else []) (e.cancelWhere cancelled) := by
  have hsized : e.Sized → (e.cancelWhere cancelled).Sized := fun h => sized_cancelWhere h cancelled
  by_cases hsource : cancelled source = true
  · rw [if_pos hsource]
    exact .drop (List.mem_singleton.2 rfl) hsized
  · rw [if_neg hsource]
    have hactive : (e.active.filter fun row => !cancelled row.1).get? source = e.active.get? source :=
      Table.get?_filter fun row hrow => by rw [hrow, Bool.eq_false_iff.2 hsource]; rfl
    unfold cancelWhere at hsized ⊢
    dsimp only at hsized ⊢
    split
    · refine .same (by rename_i h; rw [if_pos h] at hsized; exact hsized) ?_ hactive
      refine (scrolledFor_emit source _ none _).trans ?_
      rw [if_neg (by simp), add_zero]
    · exact .same (by rename_i h; rw [if_neg h] at hsized; exact hsized) rfl hactive

end ScrollEngine

/-! ## Runs -/

open ScrollEngine

/-- A notch has a distance, as `MomentumScrolling::params` clamps it. -/
def Op.Sized : Op ℚ → Prop
  | .wheelImpulse _ _ _ momentum _ => ∀ params, momentum = some params → params.pixelsPerNotch ≠ 0
  | _ => True

/-- **One operation.** -/
theorem accounts_step {e e' : ScrollEngine ℚ} (source : ScrollSource) {op : Op ℚ} (hop : op.Sized)
    (h : step e op = some e') : Accounts source e (told e source op) e' := by
  cases op with
  | wheelImpulse own delta notches momentum now =>
    cases h
    exact accounts_wheelImpulse e source own delta notches now hop
  | impulse own delta now =>
    cases h
    exact accounts_impulse e source own delta now
  | phasedImpulse own delta now =>
    cases h
    exact accounts_phasedImpulse e source own delta now
  | endIdlePhased now =>
    cases h
    exact accounts_endIdlePhased e source now
  | advanceDue now =>
    cases h
    exact accounts_advanceDue e source now
  | cancelSource own =>
    cases h
    have hcancel := accounts_cancelWhere e source fun other => other = own
    have htold : (if decide (source = own) = true then [Told.dropped] else []) =
        if own = source then [Told.dropped (F := ℚ)] else [] := if_congr (decide_eq_true_iff.trans eq_comm) rfl rfl
    rw [htold] at hcancel
    exact hcancel
  | cancelSession session =>
    cases h
    exact accounts_cancelWhere e source fun other => other.inSession session
  | cancelAll =>
    cases h
    exact .drop (List.mem_singleton.2 rfl) fun _ row hrow => (by cases hrow)
  | rehash active wheels =>
    simp only [step] at h
    split at h
    · rename_i hperm
      cases h
      exact .same (fun hsized row hrow => hsized row ((Table.mem_reorder (h := hperm.2)).1 hrow)) rfl
        (Table.get?_reorder hperm.1 source)
    · cases h

/-- What a run tells the motion of `source`. -/
def runTold (source : ScrollSource) : ScrollEngine ℚ → List (Op ℚ) → List (Told ℚ)
  | _, [] => []
  | e, op :: ops => told e source op ++ (step e op).elim [] fun e' => runTold source e' ops

theorem accounts_run (source : ScrollSource) : ∀ (ops : List (Op ℚ)) {e e' : ScrollEngine ℚ}, (∀ op ∈ ops, op.Sized) →
    run step e ops = some e' → Accounts source e (runTold source e ops) e'
  | [], e, e', _, h => by
    cases h
    exact .refl source e
  | op :: ops, e, e', hops, h => by
    obtain ⟨middle, hstep, hrun⟩ := Lib.run_cons h
    unfold runTold
    rw [hstep]
    exact (accounts_step source (hops op List.mem_cons_self) hstep).trans
      (accounts_run source ops (fun op hop => hops op (List.mem_cons_of_mem _ hop)) hrun)

/-- **No distance is lost or added**: from any state in which a source has no motion, in a run that never drops its
motion, what is emitted for it and what its motion still owes is the sum of its impulses; and what is emitted is that
sum once no motion is left. -/
theorem distance_conserved (source : ScrollSource) (before ops : List (Op ℚ)) {e e' : ScrollEngine ℚ}
    (hsized : ∀ op ∈ before ++ ops, op.Sized) (hbefore : run step {} before = some e) (hops : run step e ops = some e')
    (hidle : e.active.get? source = none) (hkept : ∀ t ∈ runTold source e ops, t.isDropped = false) :
    scrolledFor source e'.emitted - scrolledFor source e.emitted + e'.owes source = given (runTold source e ops) ∧
      (e'.active.get? source = none →
        scrolledFor source e'.emitted - scrolledFor source e.emitted = given (runTold source e ops)) := by
  have hreached := accounts_run source before (fun op hop => hsized op (List.mem_append_left _ hop)) hbefore
  have hstart : e.Sized := hreached.sized fun row hrow => (by cases hrow)
  have hran := accounts_run source ops (fun op hop => hsized op (List.mem_append_right _ hop)) hops
  have hbalance := hran.balance hstart hkept
  have hnothing : ∀ {e : ScrollEngine ℚ}, e.active.get? source = none → e.owes source = 0 := by
    intro e hnone
    unfold owes
    rw [hnone]
    rfl
  unfold account at hbalance
  rw [hnothing hidle, add_zero] at hbalance
  have hsum : scrolledFor source e'.emitted - scrolledFor source e.emitted + e'.owes source =
      given (runTold source e ops) := by
    rw [sub_add_eq_add_sub, hbalance, add_sub_cancel_left]
  refine ⟨hsum, fun hdone => ?_⟩
  rw [hnothing hdone, add_zero] at hsum
  exact hsum

end Exact

/-! ### A notch in mid-flight of another -/

section

attribute [local instance] rationals

abbrev noExponentials : Exponentials := ⟨fun _ => 1, fun _ _ => 1⟩

attribute [local instance] noExponentials

/-- A notch, two frames of it, another notch two fifths of the way, and the frames of the rest. -/
def overlappingNotches : List (Op ℚ) :=
  [.impulse mainWheel ⟨0, 1⟩ (millis 1000), .advanceDue (millis 1008), .advanceDue (millis 1023),
    .impulse mainWheel ⟨0, 1⟩ (millis 1040), .advanceDue (millis 1077), .advanceDue (millis 1200)]

theorem overlapping_notches_conserved : ∃ e, run step {} overlappingNotches = some e ∧
    e.active.get? mainWheel = none ∧ scrolledFor mainWheel e.emitted = (0, 2) := by
  obtain ⟨e, he⟩ := Option.isSome_iff_exists.1 (show (run step {} overlappingNotches).isSome = true by decide +kernel)
  have hdone : (run step {} overlappingNotches).map (fun e => (e.active.get? mainWheel).isNone) = some true := by
    decide +kernel
  rw [he] at hdone
  have hnone : e.active.get? mainWheel = none := Option.isNone_iff_eq_none.1 (Option.some.inj hdone)
  have hsum := (distance_conserved mainWheel [] overlappingNotches
    (by intro op hop; revert op hop; simp [overlappingNotches, Op.Sized]) rfl he rfl (by decide +kernel)).2 hnone
  refine ⟨e, he, hnone, ?_⟩
  have hgiven : given (runTold mainWheel {} overlappingNotches) = (0, 2) := by decide +kernel
  rw [hgiven] at hsum
  exact (sub_zero _).symm.trans hsum

end

end Scroll
end OpenLogi
