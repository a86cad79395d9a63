import OpenLogi.Scroll.Framing
/-!
# Closed — no gesture is left open

Once nothing on the stream moves, the stream is idle.  A source whose eased motion is on the stream and that is put
under momentum scrolling takes the motion off it; where that motion was the last one, nothing closes the gesture any
more.  No other operation leaves one open.
-/
namespace OpenLogi
namespace Scroll

open Lib (Along EveryState Table run everyState_iff_along)
open Lib.Framing (Cut cut_iff_run)

variable {F : Type} [F64 F]

namespace ScrollEngine

/-- `source` is a wheel under momentum scrolling. -/
def Wheeled (e : ScrollEngine F) (source : ScrollSource) : Prop := ∃ row ∈ e.wheels, row.1 = source

/-- No phased input is in progress, and no motion but of wheels whose steps stay off the stream. -/
def Still (e : ScrollEngine F) : Prop := e.phased.rows = [] ∧ ∀ row ∈ e.active, e.Wheeled row.1

/-- Nothing is left open that nothing will advance. -/
def Closed (e : ScrollEngine F) : Prop := e.Still → e.output = .idle

/-- Nothing but the motion of `source` moves on the stream. -/
def stillBut (e : ScrollEngine F) (source : ScrollSource) : Bool :=
  e.phased.rows.isEmpty && e.active.rows.all fun row => row.1 = source || (e.pixelsFor row.1).isSome

end ScrollEngine

/-- A tick so fast that a wheel unknown until then spins freely at once, and its glide takes over. -/
def launches (impulse : WheelDelta F) (notches : F) (now : Nat) : Bool :=
  (({} : FreeSpinDetector F).report now notches).phase = .freeSpin && (Direction.of impulse.y).isSome

/-- The operation puts a source under momentum scrolling while the open gesture has nothing but that source's motion to
close it, and launches no glide. -/
def strands (e : ScrollEngine F) : Op F → Bool
  | .wheelImpulse source impulse notches (some _) now =>
    !F64.eq notches (F64.lit 0) && !(e.pixelsFor source).isSome && e.stillBut source && e.output ≠ .idle &&
      !launches impulse notches now
  | _ => false

open ScrollEngine

/-! ## Stillness -/

variable {e : ScrollEngine F} {source : ScrollSource} {state : WheelState F}

theorem pixelsFor_isSome :
    (e.pixelsFor source).isSome = true ↔ e.Wheeled source := by
  unfold ScrollEngine.pixelsFor ScrollEngine.Wheeled
  rw [Option.isSome_map]
  constructor
  · intro h
    obtain ⟨row, hr⟩ := Option.isSome_iff_exists.1 h
    exact ⟨row, Table.mem_of_get? hr⟩
  · rintro ⟨row, hm, rfl⟩
    rw [Table.get?_of_mem hm]
    rfl

theorem streamIdle_iff : e.streamIdle = true ↔ e.Still := by
  simp only [ScrollEngine.streamIdle, ScrollEngine.Still, Bool.and_eq_true, List.isEmpty_iff, List.all_eq_true,
    pixelsFor_isSome, Table.mem_def]

theorem wheeled_putWheel {other : ScrollSource} :
    (e.putWheel source state).Wheeled other ↔ other = source ∨ e.Wheeled other := by
  constructor
  · rintro ⟨row, hm, rfl⟩
    rcases Table.mem_insert.1 hm with rfl | ⟨hm, -⟩
    · exact Or.inl rfl
    · exact Or.inr ⟨row, hm, rfl⟩
  · rintro (rfl | ⟨row, hm, rfl⟩)
    · exact ⟨_, Table.mem_insert.2 (Or.inl rfl), rfl⟩
    · by_cases hs : row.1 = source
      · exact ⟨_, Table.mem_insert.2 (Or.inl rfl), hs.symm⟩
      · exact ⟨row, Table.mem_insert.2 (Or.inr ⟨hm, hs⟩), rfl⟩

theorem putWheel_output (e : ScrollEngine F) (source : ScrollSource) (state : WheelState F) :
    (e.putWheel source state).output = e.output := rfl

theorem still_putWheel :
    (e.putWheel source state).Still ↔ e.stillBut source = true := by
  simp only [ScrollEngine.Still, ScrollEngine.stillBut, wheeled_putWheel, Bool.and_eq_true, List.isEmpty_iff,
    List.all_eq_true, Bool.or_eq_true, decide_eq_true_iff, pixelsFor_isSome]
  rfl

/-- A wheel already known keeps what is still. -/
theorem still_putWheel_known (hw : e.Wheeled source) : (e.putWheel source state).Still ↔ e.Still := by
  have hsame : ∀ other, (e.putWheel source state).Wheeled other ↔ e.Wheeled other := fun other =>
    wheeled_putWheel.trans ⟨fun h => h.elim (fun h => h ▸ hw) id, Or.inr⟩
  exact and_congr Iff.rfl (forall_congr' fun row => imp_congr Iff.rfl (hsame row.1))

theorem closed_putWheel (h : e.Closed) (hw : e.Wheeled source ∨ e.active.get? source = none) :
    (e.putWheel source state).Closed := by
  intro hs
  rcases hw with hw | hnone
  · exact h ((still_putWheel_known hw).1 hs)
  · refine h ⟨hs.1, fun row hm => ?_⟩
    exact (wheeled_putWheel.1 (hs.2 row hm)).resolve_left (Table.get?_eq_none.1 hnone row hm)

/-- The motion of a wheel may change, since its steps are not on the stream. -/
theorem closed_setActive {active : Sources (ActiveMotion F)} (h : e.Closed) (hw : e.Wheeled source)
    (hk : ∀ row ∈ e.active, row.1 ≠ source → row ∈ active) :
    ScrollEngine.Closed { e with active := active } := by
  intro hs
  refine h ⟨hs.1, fun row hm => ?_⟩
  by_cases hr : row.1 = source
  · exact hr ▸ hw
  · exact hs.2 row (hk row hm hr)

theorem still_setActive {active : Sources (ActiveMotion F)} (h : e.Still) (hw : e.Wheeled source)
    (hk : ∀ row ∈ active, row.1 = source ∨ row ∈ e.active) :
    ScrollEngine.Still { e with active := active } :=
  ⟨h.1, fun row hm => (hk row hm).elim (fun hr => hr ▸ hw) (h.2 row)⟩

/-! ## The stream -/

theorem closed_emitUpdate_pixels (h : e.Closed) (source : ScrollSource) (update : MotionUpdate F) (perTick : F) :
    (e.emitUpdate source update (some perTick)).Closed := h

/-- Off the pixels, an update closes the stream where it finishes the last motion. -/
theorem closed_emitUpdate_ticks {update : MotionUpdate F} (source : ScrollSource)
    (h : update.isFinished = true ∨ ¬ e.Still) : (e.emitUpdate source update none).Closed := by
  unfold ScrollEngine.emitUpdate
  dsimp only
  split
  · intro _
    show (e.output.finish update.delta false).2 = .idle
    cases e.output <;> rfl
  · rename_i hc
    intro hs
    rcases h with hf | hn
    · exact absurd (Bool.and_eq_true_iff.2 ⟨hf, streamIdle_iff.2 hs⟩) hc
    · exact absurd hs hn

/-- What an evaluation of `source`'s motion leaves of it. -/
def ScrollEngine.updated (e : ScrollEngine F) (source : ScrollSource) (motion : ActiveMotion F)
    (update : MotionUpdate F) : Sources (ActiveMotion F) :=
  if update.isFinished then e.active.erase source else e.active.insert (source, motion)

theorem mem_updated {motion : ActiveMotion F} {update : MotionUpdate F} {row : ScrollSource × ActiveMotion F}
    (hr : row.1 ≠ source) :
    row ∈ e.updated source motion update ↔ row ∈ e.active := by
  unfold ScrollEngine.updated
  split
  · exact Table.mem_erase.trans (and_iff_left hr)
  · rw [Table.mem_insert]
    exact ⟨fun h => h.elim (fun h => absurd (congrArg Prod.fst h) hr) And.left, fun h => Or.inr ⟨h, hr⟩⟩

theorem closed_update (h : e.Closed) (source : ScrollSource) (motion : ActiveMotion F) (update : MotionUpdate F) :
    ScrollEngine.Closed
      ({ e with active := e.updated source motion update }.emitUpdate source update (e.pixelsFor source)) := by
  cases hp : e.pixelsFor source with
  | some perTick =>
    have hw : e.Wheeled source := pixelsFor_isSome.1 (by rw [hp]; rfl)
    have hset : ScrollEngine.Closed { e with active := e.updated source motion update } :=
      closed_setActive h hw fun row hm hr => (mem_updated hr).2 hm
    exact closed_emitUpdate_pixels hset source update perTick
  | none =>
    refine closed_emitUpdate_ticks source ?_
    by_cases hf : update.isFinished = true
    · exact Or.inl hf
    · refine Or.inr fun hs => ?_
      -- the motion goes on, and it is not a wheel's
      have hm : (source, motion) ∈ e.updated source motion update := by
        rw [ScrollEngine.updated, if_neg hf]
        exact Table.mem_insert.2 (Or.inl rfl)
      have hw : e.Wheeled source := hs.2 _ hm
      rw [← pixelsFor_isSome, hp] at hw
      cases hw

theorem closed_dropMotion (h : e.active.get? source = none → e.Closed) :
    (e.dropMotion source).Closed := by
  unfold ScrollEngine.dropMotion
  split
  · rename_i hnone
    exact h hnone
  · dsimp only
    split
    · intro _
      show (OutputStream.cancel (F := F) e.output).2 = .idle
      cases e.output <;> rfl
    · rename_i hn
      exact fun hs => absurd (streamIdle_iff.2 hs) hn

/-! ## The operations -/

theorem emitUpdate_wheels (e : ScrollEngine F) (source : ScrollSource) (update : MotionUpdate F) (pixels : Option F) :
    (e.emitUpdate source update pixels).wheels = e.wheels := by
  unfold ScrollEngine.emitUpdate
  split
  · rfl
  · split <;> rfl

theorem settle_wheels (e : ScrollEngine F) (source : ScrollSource) (now : Nat) (pixels : Option F) :
    (e.settle source now pixels).wheels = e.wheels := by
  unfold ScrollEngine.settle
  split
  · rfl
  · split
    · exact emitUpdate_wheels _ _ _ _
    · rfl

theorem impulse_wheels (e : ScrollEngine F) (source : ScrollSource) (impulse : WheelDelta F) (now : Nat) :
    (e.impulse source impulse now).wheels = e.wheels := by
  unfold ScrollEngine.impulse
  dsimp only
  split
  · exact settle_wheels _ _ _ _
  · exact (emitUpdate_wheels _ _ _ _).trans (settle_wheels _ _ _ _)

theorem dropMotion_wheels (e : ScrollEngine F) (source : ScrollSource) : (e.dropMotion source).wheels = e.wheels := by
  unfold ScrollEngine.dropMotion
  split
  · rfl
  · dsimp only
    split <;> rfl

theorem settle_pixelsFor (e : ScrollEngine F) (source other : ScrollSource) (now : Nat) (pixels : Option F) :
    (e.settle source now pixels).pixelsFor other = e.pixelsFor other := by
  rw [ScrollEngine.pixelsFor, settle_wheels]
  rfl

theorem closed_settle (h : e.Closed) (source : ScrollSource) (now : Nat) :
    (e.settle source now (e.pixelsFor source)).Closed := by
  unfold ScrollEngine.settle
  split
  · exact h
  · rename_i motion _
    split
    · rename_i hc
      have hf : (motion.advance now).1.isFinished = true := (motion.advance_isFinished now).trans hc
      have hu := closed_update h source motion (motion.advance now).1
      rwa [ScrollEngine.updated, if_pos hf] at hu
    · exact h

theorem closed_impulse (h : e.Closed) (source : ScrollSource) (impulse : WheelDelta F) (now : Nat) :
    (e.impulse source impulse now).Closed := by
  have hs := closed_settle h source now
  have hp := settle_pixelsFor e source source now (e.pixelsFor source)
  unfold ScrollEngine.impulse
  dsimp only
  generalize e.settle source now (e.pixelsFor source) = settled at hs hp ⊢
  rw [← hp]
  split
  · -- a motion that begins is on the stream, or it is a wheel's
    intro hstill
    have hw : settled.Wheeled source := hstill.2 _ (Table.mem_insert.2 (Or.inl rfl))
    exact closed_setActive hs hw (fun row hm hr => Table.mem_insert.2 (Or.inr ⟨hm, hr⟩)) hstill
  · exact closed_update hs source _ _

theorem closed_stopWheel (h : e.Closed) (source : ScrollSource) (now : Nat) :
    (e.stopWheel source now).Closed := by
  unfold ScrollEngine.stopWheel
  dsimp only
  split
  · exact closed_dropMotion fun _ => h
  · rename_i row hg
    exact closed_dropMotion fun _ => closed_putWheel h (Or.inl ⟨_, Table.mem_of_get? hg⟩)

theorem wheeled_of_get? {other : ScrollSource} (hg : e.wheels.get? source = some (other, state)) : e.Wheeled source :=
  ⟨_, Table.mem_of_get? hg⟩

theorem closed_wheelTick (h : e.Closed) (hw : e.Wheeled source) (tick : WheelTick F) (now : Nat)
    (momentum : MomentumParams F) : (e.wheelTick source tick now momentum).Closed := by
  have hput : ∀ state, (e.putWheel source state).Closed := fun _ => closed_putWheel h (Or.inl hw)
  unfold ScrollEngine.wheelTick
  dsimp only
  split
  · exact hput _
  · split
    · exact closed_impulse (hput _) source _ now
    · exact closed_dropMotion fun _ => hput _
    · exact hput _
    · exact closed_stopWheel (hput _) source now

/-- A tick leaves its source a wheel. -/
theorem wheeled_wheelTick (source : ScrollSource) (tick : WheelTick F) (now : Nat) (momentum : MomentumParams F) :
    (e.wheelTick source tick now momentum).Wheeled source := by
  have hput : ∀ (e : ScrollEngine F) state, (e.putWheel source state).Wheeled source := fun _ _ =>
    wheeled_putWheel.2 (Or.inl rfl)
  unfold ScrollEngine.wheelTick
  dsimp only
  split
  · exact hput _ _
  · split
    · unfold ScrollEngine.Wheeled
      rw [impulse_wheels]
      exact hput _ _
    · unfold ScrollEngine.Wheeled
      rw [dropMotion_wheels]
      exact hput _ _
    · exact hput _ _
    · unfold ScrollEngine.Wheeled ScrollEngine.stopWheel
      rw [dropMotion_wheels]
      split
      · exact hput _ _
      · exact hput _ _

theorem closed_advanceWheel (now : Nat) (h : e.Closed) (source : ScrollSource) :
    (advanceWheel now e source).Closed := by
  unfold advanceWheel
  split
  · exact h
  · rename_i hg
    have hput : ∀ state, (e.putWheel source state).Closed := fun _ => closed_putWheel h (Or.inl (wheeled_of_get? hg))
    split
    · exact hput _
    all_goals
      dsimp only
      split
      · exact closed_stopWheel (hput _) source now
      · exact hput _
      · exact hput _
      · exact hput _
      · exact hput _

theorem closed_advanceMotion (now : Nat) (h : e.Closed) (source : ScrollSource) :
    (advanceMotion now e source).Closed := by
  unfold advanceMotion
  split
  · exact h
  · exact closed_update h source _ _

theorem closed_endIdlePhased (h : e.Closed) (now : Nat) : (e.endIdlePhased now).Closed := by
  unfold ScrollEngine.endIdlePhased
  dsimp only
  split
  · intro _
    show (OutputStream.finish e.output (.zero : WheelDelta F) true).2 = .idle
    cases e.output <;> rfl
  · rename_i hc
    intro hs
    have hlen : (e.phased.filter fun row => now < row.2).rows.length = e.phased.rows.length := by
      by_contra hne
      exact hc (Bool.and_eq_true_iff.2 ⟨decide_eq_true hne, streamIdle_iff.2 hs⟩)
    have hsame : (e.phased.filter fun row => now < row.2) = e.phased :=
      Table.ext (List.filter_sublist.eq_of_length hlen)
    rw [hsame] at hs
    exact h hs

theorem closed_phasedImpulse (source : ScrollSource) (impulse : WheelDelta F) (now : Nat) :
    (e.phasedImpulse source impulse now).Closed := fun hs => by
  cases hs.1

theorem closed_advanceDue (h : e.Closed) (now : Nat) : (e.advanceDue now).Closed :=
  Lib.foldl_keeps ScrollEngine.Closed (fun _ source he => closed_advanceMotion now he source) _ _
    (Lib.foldl_keeps ScrollEngine.Closed (fun _ source he => closed_advanceWheel now he source) _ _
      (closed_endIdlePhased h now))

theorem closed_cancelWhere (h : e.Closed) (cancelled : ScrollSource → Bool) :
    (e.cancelWhere cancelled).Closed := by
  unfold ScrollEngine.cancelWhere
  dsimp only
  split
  · intro _
    show (OutputStream.cancel (F := F) e.output).2 = .idle
    cases e.output <;> rfl
  · rename_i hc
    intro hs
    have hlen : (e.active.filter fun row => !cancelled row.1).rows.length = e.active.rows.length ∧
        (e.phased.filter fun row => !cancelled row.1).rows.length = e.phased.rows.length := by
      by_contra hne
      refine hc (Bool.and_eq_true_iff.2 ⟨decide_eq_true fun he => hne (Prod.ext_iff.1 he), streamIdle_iff.2 hs⟩)
    have hactive : (e.active.filter fun row => !cancelled row.1) = e.active :=
      Table.ext (List.filter_sublist.eq_of_length hlen.1)
    have hphased : (e.phased.filter fun row => !cancelled row.1) = e.phased :=
      Table.ext (List.filter_sublist.eq_of_length hlen.2)
    rw [hactive, hphased] at hs
    refine h ⟨hs.1, fun row hm => ?_⟩
    obtain ⟨wheel, hwheel, hk⟩ := hs.2 row hm
    exact ⟨wheel, (Table.mem_filter.1 hwheel).1, hk⟩

theorem closed_cancelAll (e : ScrollEngine F) : e.cancelAll.Closed := fun _ => by
  show (OutputStream.cancel (F := F) e.output).2 = .idle
  cases e.output <;> rfl

/-! ## A wheel put under momentum scrolling -/

theorem wheel_unknown (hw : ¬ e.Wheeled source) (momentum : MomentumParams F) :
    e.wheel source momentum = .new momentum := by
  unfold ScrollEngine.wheel
  cases hg : e.wheels.get? source with
  | none => rfl
  | some row => exact absurd ⟨_, Table.mem_of_get? hg⟩ hw

/-- The impulse of a wheel leaves the stream and what is still on it. -/
theorem impulse_wheeled (hw : e.Wheeled source) (impulse : WheelDelta F) (now : Nat) :
    (e.impulse source impulse now).output = e.output ∧
      (e.Still → (e.impulse source impulse now).Still) := by
  obtain ⟨perTick, hp⟩ := Option.isSome_iff_exists.1 (pixelsFor_isSome.2 hw)
  have hsettle : (e.settle source now (some perTick)).output = e.output ∧
      (e.settle source now (some perTick)).Wheeled source ∧ (e.Still → (e.settle source now (some perTick)).Still) := by
    unfold ScrollEngine.settle
    split
    · exact ⟨rfl, hw, id⟩
    · split
      · exact ⟨rfl, hw, fun hs => still_setActive (e := e) hs hw fun row hm => Or.inr (Table.mem_erase.1 hm).1⟩
      · exact ⟨rfl, hw, id⟩
  unfold ScrollEngine.impulse
  dsimp only
  rw [hp]
  generalize e.settle source now (some perTick) = settled at hsettle ⊢
  obtain ⟨hout, hws, hstill⟩ := hsettle
  split
  · refine ⟨hout, fun hs => still_setActive (hstill hs) hws fun row hm => ?_⟩
    exact (Table.mem_insert.1 hm).imp (congrArg Prod.fst) And.left
  · refine ⟨hout, fun hs => still_setActive (e := settled) (hstill hs) hws fun row hm => ?_⟩
    by_cases hr : row.1 = source
    · exact Or.inl hr
    · exact Or.inr ((mem_updated hr).1 hm)

theorem wheel_putWheel (e : ScrollEngine F) (source : ScrollSource) (state : WheelState F)
    (momentum : MomentumParams F) : (e.putWheel source state).wheel source momentum = state := by
  have hg : (e.wheels.insert (source, state)).get? source = some (source, state) :=
    Table.get?_of_mem (Table.mem_insert.2 (Or.inl rfl))
  unfold ScrollEngine.wheel ScrollEngine.putWheel
  rw [hg]
  rfl

/-- **The first tick of a wheel just put under momentum scrolling**: it launches a glide and drops the motion, or leaves
the stream and what is on it as they are. -/
theorem wheelTick_new (h : e.Closed) (hd : state.detector = {}) (hg : state.glide = .idle none) (tick : WheelTick F)
    (now : Nat) (momentum : MomentumParams F) :
    ((e.putWheel source state).wheelTick source tick now momentum).Closed ↔
      launches tick.impulse tick.notches now = true ∨ (e.putWheel source state).Closed := by
  have hw : (e.putWheel source state).Wheeled source := wheeled_putWheel.2 (Or.inl rfl)
  have hput : ∀ state', ((e.putWheel source state).putWheel source state').Closed ↔
      (e.putWheel source state).Closed := fun state' =>
    imp_congr (still_putWheel_known hw) Iff.rfl
  unfold ScrollEngine.wheelTick launches
  dsimp only
  rw [wheel_putWheel, hd]
  rw [if_neg (by simp [WheelState.pushedWhileGliding, WheelState.gliding, hg])]
  rcases FreeSpinDetector.report_fresh now tick.notches with hp | hp
  · simp only [hp]
    generalize hk : (e.putWheel source state).putWheel source _ = known
    have hwk : known.Wheeled source := by rw [← hk]; exact wheeled_putWheel.2 (Or.inl rfl)
    obtain ⟨hout, hstill⟩ := impulse_wheeled hwk tick.impulse now
    rw [← hput, hk]
    simp only [reduceCtorEq, decide_false, Bool.false_and, Bool.false_eq_true, false_or]
    exact ⟨fun hc hs => hout ▸ hc (hstill hs), fun hc => closed_impulse hc source _ now⟩
  · simp only [hp, hg]
    cases hdir : Direction.of tick.impulse.y with
    | none => simp [hput]
    | some direction =>
      simp only [decide_true, Bool.true_and, Option.isSome_some, true_or, iff_true]
      exact closed_dropMotion fun hnone => (hput _).2 (closed_putWheel h (Or.inr hnone))

theorem closed_wheelImpulse (h : e.Closed) (source : ScrollSource) (impulse : WheelDelta F) (notches : F)
    (momentum : Option (MomentumParams F)) (now : Nat) :
    (e.wheelImpulse source impulse notches momentum now).Closed ↔
      strands e (.wheelImpulse source impulse notches momentum now) = false := by
  unfold ScrollEngine.wheelImpulse strands
  cases momentum with
  | none =>
    have herase : ScrollEngine.Closed { e with wheels := e.wheels.erase source } := by
      intro hs
      refine h ⟨hs.1, fun row hm => ?_⟩
      obtain ⟨wheel, hwheel, hk⟩ := hs.2 row hm
      exact ⟨wheel, (Table.mem_erase.1 hwheel).1, hk⟩
    exact iff_of_true (closed_impulse herase source impulse now) rfl
  | some momentum =>
    dsimp only
    by_cases hn : F64.eq notches (F64.lit 0) = true
    · rw [if_pos hn]
      exact iff_of_true (closed_impulse h source impulse now) (by simp [hn])
    rw [if_neg hn]
    by_cases hw : e.Wheeled source
    · -- a wheel already known stays one
      have hput : ∀ state, (e.putWheel source state).Closed := fun _ => closed_putWheel h (Or.inl hw)
      have hwheel : ∀ state, (e.putWheel source state).Wheeled source := fun _ => wheeled_putWheel.2 (Or.inl rfl)
      refine iff_of_true ?_ (by simp [pixelsFor_isSome.2 hw])
      split
      · exact closed_wheelTick (hput _) (hwheel _) _ now momentum
      · exact hput _
      · refine (Lib.foldl_keeps (fun e : ScrollEngine F => e.Closed ∧ e.Wheeled source) (fun e tick he => ?_) _ _
          ⟨hput _, hwheel _⟩).1
        exact ⟨closed_wheelTick he.1 he.2 tick now momentum, wheeled_wheelTick source tick now momentum⟩
    · rw [wheel_unknown hw]
      have hpass : ∀ lock payload, (WheelState.new momentum).springBack.admitTick notches now lock payload =
          (.pass payload, { last := some (F64.signum notches, now) }) := fun _ _ => rfl
      rw [hpass]
      dsimp only
      rw [wheelTick_new h rfl rfl]
      unfold ScrollEngine.Closed
      rw [still_putWheel]
      have hp : (e.pixelsFor source).isSome = false := Bool.eq_false_iff.2 fun hp => hw (pixelsFor_isSome.1 hp)
      cases launches impulse notches now <;> cases e.stillBut source <;> simp [hn, hp, putWheel_output]

theorem closed_step {e' : ScrollEngine F} {op : Op F} (h : e.Closed) (hs : step e op = some e') :
    e'.Closed ↔ strands e op = false := by
  cases op with
  | wheelImpulse source impulse notches momentum now =>
    cases hs
    exact closed_wheelImpulse h source impulse notches momentum now
  | impulse source impulse now =>
    cases hs
    exact iff_of_true (closed_impulse h source impulse now) rfl
  | phasedImpulse source impulse now =>
    cases hs
    exact iff_of_true (closed_phasedImpulse source impulse now) rfl
  | endIdlePhased now =>
    cases hs
    exact iff_of_true (closed_endIdlePhased h now) rfl
  | advanceDue now =>
    cases hs
    exact iff_of_true (closed_advanceDue h now) rfl
  | cancelSource source =>
    cases hs
    exact iff_of_true (closed_cancelWhere h _) rfl
  | cancelSession session =>
    cases hs
    exact iff_of_true (closed_cancelWhere h _) rfl
  | cancelAll =>
    cases hs
    exact iff_of_true (closed_cancelAll e) rfl
  | rehash active wheels =>
    dsimp only [step] at hs
    split at hs
    · rename_i hperm
      cases hs
      refine iff_of_true (fun hs => h ⟨hs.1, fun row hm => ?_⟩) rfl
      obtain ⟨wheel, hwheel, hk⟩ := hs.2 row ((Table.mem_reorder (h := hperm.1)).2 hm)
      exact ⟨wheel, (Table.mem_reorder (h := hperm.2)).1 hwheel, hk⟩
    · cases hs

/-! ## Runs -/

theorem closed_init : ({} : ScrollEngine F).Closed := fun _ => rfl

/-- **Every state of a run is closed exactly when no operation of it strands a gesture.** -/
theorem closed_iff_kept (ops : List (Op F)) :
    EveryState step ScrollEngine.Closed {} ops ↔ Along step (fun e op => strands e op = false) {} ops :=
  everyState_iff_along ScrollEngine.Closed (fun e op => strands e op = false) (fun _ _ _ h hs => closed_step h hs)
    (fun e op h => by
      cases op with
      | rehash active wheels => rfl
      | _ => cases h) ops {} closed_init

/-- **No gesture is left open**: in a run of which no operation strands one, once nothing moves on the stream every
gesture that began on it is whole. -/
theorem none_left_open (ops : List (Op F)) (e : ScrollEngine F)
    (hk : Along step (fun e op => strands e op = false) {} ops) (hr : run step {} ops = some e) (hs : e.Still) :
    e.output = .idle ∧ Cut ScrollFrame.mark ScrollFrame.kind none e.stream := by
  have hclosed : e.Closed := (closed_iff_kept ops).2 hk ops e List.prefix_rfl hr
  have hidle : e.output = .idle := hclosed hs
  have hframed : e.Framed := framed_run ops e hr
  refine ⟨hidle, cut_iff_run.2 ?_⟩
  rw [ScrollEngine.Framed, hidle] at hframed
  exact hframed

/-! ### A motion under way as momentum scrolling comes on -/

section

attribute [local instance] plainRationals

def mainWheel : ScrollSource := .hidpp ⟨"a", 1⟩ .main

def momentumOn : MomentumParams ℚ := ⟨28, .smooth, 8000, millis 400, 135 / 100⟩

/-- One notch with momentum scrolling off and one frame of it, then another notch. -/
def twoNotches (later : Option (MomentumParams ℚ)) : List (Op ℚ) :=
  [.wheelImpulse mainWheel ⟨0, 1⟩ 1 none (millis 1000), .advanceDue (millis 1008),
    .wheelImpulse mainWheel ⟨0, 1⟩ 1 later (millis 1010), .advanceDue (millis 1200)]

theorem two_notches_closed : ∃ e, run step {} (twoNotches none) = some e ∧
    e.stream.map ScrollFrame.phase = [.began, .changed, .ended] ∧
    e.output = .idle ∧ Cut ScrollFrame.mark ScrollFrame.kind none e.stream := by
  obtain ⟨e, he⟩ := Option.isSome_iff_exists.1 (show (run step {} (twoNotches none)).isSome = true by decide)
  have hp : (run step {} (twoNotches none)).map (fun e => (e.streamIdle, e.stream.map ScrollFrame.phase)) =
      some (true, [.began, .changed, .ended]) := by decide +kernel
  rw [he] at hp
  obtain ⟨hidle, hphases⟩ := Prod.ext_iff.1 (Option.some.inj hp)
  exact ⟨e, he, hphases, none_left_open _ e (by decide +kernel) he (streamIdle_iff.1 hidle)⟩

/-- **Two gestures open while a source is still**: another source's, which shares the stream; and the source's own, once
momentum scrolling has taken its motion off the stream. -/
theorem still_source_open :
    (∃ e, run step {} (twoThumbs.take 1) = some e ∧ e.active.get? (thumb "b") = none ∧
      e.phased.get? (thumb "b") = none ∧ e.output ≠ .idle) ∧
    ∃ e, run step {} (twoNotches (some momentumOn)) = some e ∧ e.active.rows = [] ∧ e.phased.rows = [] ∧
      e.output ≠ .idle := by
  constructor
  · obtain ⟨e, he⟩ := Option.isSome_iff_exists.1 (show (run step {} (twoThumbs.take 1)).isSome = true by decide)
    have hp : (run step {} (twoThumbs.take 1)).map (fun e => ((e.active.get? (thumb "b")).isNone,
        (e.phased.get? (thumb "b")).isNone, e.output)) = some (true, true, .active true) := by decide +kernel
    rw [he] at hp
    obtain ⟨ha, hpo⟩ := Prod.ext_iff.1 (Option.some.inj hp)
    obtain ⟨hph, ho⟩ := Prod.ext_iff.1 hpo
    refine ⟨e, he, Option.isNone_iff_eq_none.1 ha, Option.isNone_iff_eq_none.1 hph, fun hidle => ?_⟩
    cases hidle.symm.trans ho
  · obtain ⟨e, he⟩ := Option.isSome_iff_exists.1
      (show (run step {} (twoNotches (some momentumOn))).isSome = true by decide)
    have hp : (run step {} (twoNotches (some momentumOn))).map (fun e => (e.active.rows.isEmpty, e.phased.rows.isEmpty,
        e.output)) = some (true, true, .active false) := by decide +kernel
    rw [he] at hp
    obtain ⟨ha, hpo⟩ := Prod.ext_iff.1 (Option.some.inj hp)
    obtain ⟨hph, ho⟩ := Prod.ext_iff.1 hpo
    refine ⟨e, he, List.isEmpty_iff.1 ha, List.isEmpty_iff.1 hph, fun hidle => ?_⟩
    cases hidle.symm.trans ho

end

end Scroll
end OpenLogi
