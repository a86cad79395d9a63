import OpenLogi.Lib.Sweep
import OpenLogi.Scroll.Engine
/-!
# Sources — whose frames the engine emits

An operation on one source emits for that source only, and gives a state to no other.  A due frame is emitted for a
source that has a state.
-/
namespace OpenLogi
namespace Scroll

open Button (HidppSessionId)
open Lib (Table)

variable {F : Type} [F64 F]

namespace ScrollEngine

/-- A condition on the sources that have a state. -/
structure Rows (P : ScrollSource → Prop) (e : ScrollEngine F) : Prop where
  active : ∀ row ∈ e.active, P row.1
  phased : ∀ row ∈ e.phased, P row.1
  wheels : ∀ row ∈ e.wheels, P row.1

/-- A condition on the sources that frames were emitted for, from the `n`-th frame on. -/
def Emits (P : ScrollSource → Prop) (n : Nat) (e : ScrollEngine F) : Prop :=
  ∀ x ∈ e.emitted.drop n, ∀ source, x.1 = some source → P source

variable {P : ScrollSource → Prop} {n : Nat} {e : ScrollEngine F} {source : ScrollSource}

/-! ## Emitting -/

variable {α : Type}

theorem mem_drop_append {xs ys : List α} {n : Nat} {x : α} (h : x ∈ (xs ++ ys).drop n) :
    x ∈ xs.drop n ∨ x ∈ ys := by
  rw [List.drop_append] at h
  rcases List.mem_append.1 h with h | h
  · exact .inl h
  · exact .inr (List.mem_of_mem_drop h)

theorem emits_emit (h : e.Emits P n) {source : Option ScrollSource} (hs : ∀ s, source = some s → P s)
    (frames : List (ScrollFrame F)) : (e.emit source frames).Emits P n := by
  intro x hx s hxs
  rcases mem_drop_append hx with hx | hx
  · exact h x hx s hxs
  · obtain ⟨frame, _, rfl⟩ := List.mem_map.1 hx
    exact hs s hxs

theorem emits_onStream (h : e.Emits P n) {source : Option ScrollSource} (hs : ∀ s, source = some s → P s)
    (out : List (ScrollFrame F) × OutputStream) : (e.onStream source out).Emits P n :=
  emits_emit h hs out.1

theorem only (hP : P source) : ∀ s, some source = some s → P s := fun _ hs => Option.some.inj hs ▸ hP

theorem nobody : ∀ s : ScrollSource, (none : Option ScrollSource) = some s → P s := fun s hs => by cases hs

theorem emits_emitUpdate (h : e.Emits P n) (hP : P source) (update : MotionUpdate F) (pixels : Option F) :
    (e.emitUpdate source update pixels).Emits P n := by
  unfold emitUpdate
  split
  · exact emits_emit h (only hP) _
  · split
    · exact emits_onStream h (only hP) _
    · exact emits_onStream h (only hP) _

theorem emits_settle (h : e.Emits P n) (hP : P source) (now : Nat) (pixels : Option F) :
    (e.settle source now pixels).Emits P n := by
  unfold settle
  split
  · exact h
  · split
    · refine emits_emitUpdate ?_ hP _ _
      exact h
    · exact h

theorem emits_impulse (h : e.Emits P n) (hP : P source) (impulse : WheelDelta F) (now : Nat) :
    (e.impulse source impulse now).Emits P n := by
  have hsettle := emits_settle h hP now (e.pixelsFor source)
  unfold ScrollEngine.impulse
  dsimp only
  split
  · exact hsettle
  · refine emits_emitUpdate ?_ hP _ _
    exact hsettle

theorem emits_dropMotion (h : e.Emits P n) (hP : P source) : (e.dropMotion source).Emits P n := by
  unfold dropMotion
  split
  · exact h
  · dsimp only
    split
    · exact emits_onStream h (only hP) _
    · exact h

theorem emits_stopWheel (h : e.Emits P n) (hP : P source) (now : Nat) : (e.stopWheel source now).Emits P n := by
  unfold stopWheel
  dsimp only
  split
  · exact emits_dropMotion h hP
  · refine emits_dropMotion ?_ hP
    exact h

theorem emits_wheelTick (h : e.Emits P n) (hP : P source) (tick : WheelTick F) (now : Nat)
    (momentum : MomentumParams F) : (e.wheelTick source tick now momentum).Emits P n := by
  unfold wheelTick
  dsimp only
  split
  · refine emits_emit ?_ (only hP) _
    exact h
  · split
    · refine emits_impulse ?_ hP _ now
      exact h
    · refine emits_dropMotion ?_ hP
      exact h
    · exact h
    · refine emits_stopWheel ?_ hP now
      exact h

theorem emits_wheelImpulse (h : e.Emits P n) (hP : P source) (impulse : WheelDelta F) (notches : F)
    (momentum : Option (MomentumParams F)) (now : Nat) :
    (e.wheelImpulse source impulse notches momentum now).Emits P n := by
  unfold wheelImpulse
  split
  · refine emits_impulse ?_ hP impulse now
    exact h
  · split
    · exact emits_impulse h hP impulse now
    · dsimp only
      split
      · refine emits_wheelTick ?_ hP _ now _
        exact h
      · exact h
      · refine Lib.foldl_keeps (Emits P n) (fun _ tick he => emits_wheelTick he hP tick now _) _ _ ?_
        exact h

theorem emits_endIdlePhased (h : e.Emits P n) (now : Nat) : (e.endIdlePhased now).Emits P n := by
  unfold endIdlePhased
  dsimp only
  split
  · exact emits_onStream h nobody _
  · exact h

theorem emits_phasedImpulse (h : e.Emits P n) (hP : P source) (impulse : WheelDelta F) (now : Nat) :
    (e.phasedImpulse source impulse now).Emits P n := by
  have hended := emits_endIdlePhased h now
  exact emits_onStream hended (only hP) _

theorem emits_cancelWhere (h : e.Emits P n) (cancelled : ScrollSource → Bool) :
    (e.cancelWhere cancelled).Emits P n := by
  unfold cancelWhere
  dsimp only
  split
  · exact emits_onStream h nobody _
  · exact h

theorem emits_cancelSession (h : e.Emits P n) (session : HidppSessionId) : (e.cancelSession session).Emits P n :=
  emits_cancelWhere h fun own => own.inSession session

theorem emits_cancelSource (h : e.Emits P n) (source : ScrollSource) : (e.cancelSource source).Emits P n :=
  emits_cancelWhere h fun own => own = source

theorem emits_cancelAll (h : e.Emits P n) : e.cancelAll.Emits P n := emits_onStream h nobody _

/-! ## The sources that have a state -/

theorem mem_insert_source {t : Sources α} (h : ∀ row ∈ t, P row.1) (hP : P source) (a : α) :
    ∀ row ∈ t.insert (source, a), P row.1 := by
  intro row hrow
  rcases Table.mem_insert.1 hrow with rfl | ⟨hrow, _⟩
  · exact hP
  · exact h row hrow

theorem mem_erase_source {t : Sources α} (h : ∀ row ∈ t, P row.1) (source : ScrollSource) :
    ∀ row ∈ t.erase source, P row.1 := fun row hrow => h row (Table.mem_erase.1 hrow).1

theorem mem_filter_source {t : Sources α} (h : ∀ row ∈ t, P row.1) (p : ScrollSource × α → Bool) :
    ∀ row ∈ t.filter p, P row.1 := fun row hrow => h row (Table.mem_filter.1 hrow).1

theorem mem_reorder_source {t : Sources α} (h : ∀ row ∈ t, P row.1) {order : List ScrollSource}
    (hperm : order.Perm (t.rows.map Prod.fst)) : ∀ row ∈ t.reorder order hperm, P row.1 :=
  fun row hrow => h row (Table.mem_reorder.1 hrow)

theorem source_of_get? {t : Sources α} (h : ∀ row ∈ t, P row.1) {other : ScrollSource} {a : α}
    (hg : t.get? source = some (other, a)) : P source := by
  obtain ⟨hmem, hkey⟩ := Table.mem_of_get? hg
  exact hkey ▸ h _ hmem

theorem rows_emit (h : e.Rows P) (source : Option ScrollSource) (frames : List (ScrollFrame F)) :
    (e.emit source frames).Rows P := ⟨h.active, h.phased, h.wheels⟩

theorem rows_onStream (h : e.Rows P) (source : Option ScrollSource) (out : List (ScrollFrame F) × OutputStream) :
    (e.onStream source out).Rows P := ⟨h.active, h.phased, h.wheels⟩

theorem rows_emitUpdate (h : e.Rows P) (source : ScrollSource) (update : MotionUpdate F) (pixels : Option F) :
    (e.emitUpdate source update pixels).Rows P := by
  unfold emitUpdate
  split
  · exact rows_emit h _ _
  · split
    · exact rows_onStream h _ _
    · exact rows_onStream h _ _

theorem rows_settle (h : e.Rows P) (source : ScrollSource) (now : Nat) (pixels : Option F) :
    (e.settle source now pixels).Rows P := by
  have hkept : ScrollEngine.Rows P { e with active := e.active.erase source } :=
    ⟨mem_erase_source h.active _, h.phased, h.wheels⟩
  unfold settle
  split
  · exact h
  · split
    · exact rows_emitUpdate hkept _ _ _
    · exact h

theorem rows_updated (h : e.Rows P) (hP : P source) (motion : ActiveMotion F) (update : MotionUpdate F) :
    ScrollEngine.Rows P { e with active :=
      if update.isFinished then e.active.erase source else e.active.insert (source, motion) } := by
  refine ⟨?_, h.phased, h.wheels⟩
  dsimp only
  split
  · exact mem_erase_source h.active _
  · exact mem_insert_source h.active hP motion

theorem rows_impulse (h : e.Rows P) (hP : P source) (impulse : WheelDelta F) (now : Nat) :
    (e.impulse source impulse now).Rows P := by
  have hsettle := rows_settle h source now (e.pixelsFor source)
  unfold ScrollEngine.impulse
  dsimp only
  split
  · exact ⟨mem_insert_source hsettle.active hP _, hsettle.phased, hsettle.wheels⟩
  · exact rows_emitUpdate (rows_updated hsettle hP _ _) _ _ _

theorem rows_dropMotion (h : e.Rows P) (source : ScrollSource) : (e.dropMotion source).Rows P := by
  have hkept : ScrollEngine.Rows P { e with active := e.active.erase source } :=
    ⟨mem_erase_source h.active _, h.phased, h.wheels⟩
  unfold dropMotion
  split
  · exact h
  · dsimp only
    split
    · exact rows_onStream hkept _ _
    · exact hkept

theorem rows_putWheel (h : e.Rows P) (hP : P source) (state : WheelState F) : (e.putWheel source state).Rows P :=
  ⟨h.active, h.phased, mem_insert_source h.wheels hP state⟩

theorem rows_stopWheel (h : e.Rows P) (hP : P source) (now : Nat) : (e.stopWheel source now).Rows P := by
  unfold stopWheel
  dsimp only
  split
  · exact rows_dropMotion h source
  · exact rows_dropMotion (rows_putWheel h hP _) source

theorem rows_wheelTick (h : e.Rows P) (hP : P source) (tick : WheelTick F) (now : Nat)
    (momentum : MomentumParams F) : (e.wheelTick source tick now momentum).Rows P := by
  unfold wheelTick
  dsimp only
  split
  · exact rows_emit (rows_putWheel h hP _) _ _
  · split
    · exact rows_impulse (rows_putWheel h hP _) hP _ now
    · exact rows_dropMotion (rows_putWheel h hP _) source
    · exact rows_putWheel h hP _
    · exact rows_stopWheel (rows_putWheel h hP _) hP now

theorem rows_wheelImpulse (h : e.Rows P) (hP : P source) (impulse : WheelDelta F) (notches : F)
    (momentum : Option (MomentumParams F)) (now : Nat) :
    (e.wheelImpulse source impulse notches momentum now).Rows P := by
  have hkept : ScrollEngine.Rows P { e with wheels := e.wheels.erase source } :=
    ⟨h.active, h.phased, mem_erase_source h.wheels _⟩
  unfold wheelImpulse
  split
  · exact rows_impulse hkept hP impulse now
  · split
    · exact rows_impulse h hP impulse now
    · dsimp only
      split
      · exact rows_wheelTick (rows_putWheel h hP _) hP _ now _
      · exact rows_putWheel h hP _
      · exact Lib.foldl_keeps (Rows P) (fun _ tick he => rows_wheelTick he hP tick now _) _ _ (rows_putWheel h hP _)

theorem rows_endIdlePhased (h : e.Rows P) (now : Nat) : (e.endIdlePhased now).Rows P := by
  have hkept : ScrollEngine.Rows P { e with phased := e.phased.filter fun row => now < row.2 } :=
    ⟨h.active, mem_filter_source h.phased _, h.wheels⟩
  unfold endIdlePhased
  dsimp only
  split
  · exact rows_onStream hkept _ _
  · exact hkept

theorem rows_phasedImpulse (h : e.Rows P) (hP : P source) (impulse : WheelDelta F) (now : Nat) :
    (e.phasedImpulse source impulse now).Rows P := by
  have hended := rows_endIdlePhased h now
  exact ⟨hended.active, mem_insert_source hended.phased hP _, hended.wheels⟩

theorem rows_cancelWhere (h : e.Rows P) (cancelled : ScrollSource → Bool) : (e.cancelWhere cancelled).Rows P := by
  have hkept : ScrollEngine.Rows P { e with
      wheels := e.wheels.filter fun row => !cancelled row.1
      active := e.active.filter fun row => !cancelled row.1
      phased := e.phased.filter fun row => !cancelled row.1 } :=
    ⟨mem_filter_source h.active _, mem_filter_source h.phased _, mem_filter_source h.wheels _⟩
  unfold cancelWhere
  dsimp only
  split
  · exact rows_onStream hkept _ _
  · exact hkept

theorem rows_cancelSession (h : e.Rows P) (session : HidppSessionId) : (e.cancelSession session).Rows P :=
  rows_cancelWhere h fun own => own.inSession session

theorem rows_cancelSource (h : e.Rows P) (source : ScrollSource) : (e.cancelSource source).Rows P :=
  rows_cancelWhere h fun own => own = source

/-- What is cancelled has no state. -/
theorem rows_cancelled (e : ScrollEngine F) (cancelled : ScrollSource → Bool) :
    (e.cancelWhere cancelled).Rows fun source => cancelled source = false := by
  have hkept : ScrollEngine.Rows (fun source => cancelled source = false) { e with
      wheels := e.wheels.filter fun row => !cancelled row.1
      active := e.active.filter fun row => !cancelled row.1
      phased := e.phased.filter fun row => !cancelled row.1 } := by
    refine ⟨fun row hrow => ?_, fun row hrow => ?_, fun row hrow => ?_⟩
    · simpa using (Table.mem_filter.1 hrow).2
    · simpa using (Table.mem_filter.1 hrow).2
    · simpa using (Table.mem_filter.1 hrow).2
  unfold cancelWhere
  dsimp only
  split
  · exact rows_onStream hkept _ _
  · exact hkept

theorem rows_cancelAll (e : ScrollEngine F) : e.cancelAll.Rows P :=
  rows_onStream ⟨by simp, by simp, by simp⟩ _ _

/-- Another order of the hash maps is no output, and no other state. -/
theorem rehash_cases {e' : ScrollEngine F} {active wheels : List ScrollSource}
    (h : step e (.rehash active wheels) = some e') : e'.emitted = e.emitted ∧ ∀ P, e.Rows P → e'.Rows P := by
  simp only [step] at h
  split at h
  · rename_i hperm
    cases h
    exact ⟨rfl, fun P he =>
      ⟨mem_reorder_source he.active hperm.1, he.phased, mem_reorder_source he.wheels hperm.2⟩⟩
  · cases h

/-! ## Due frames -/

theorem due_advanceWheel (now : Nat) (h : e.Rows P ∧ e.Emits P n) (source : ScrollSource) :
    (advanceWheel now e source).Rows P ∧ (advanceWheel now e source).Emits P n := by
  unfold advanceWheel
  split
  · exact h
  · rename_i hg
    have hP := source_of_get? h.1.wheels hg
    have hput : ∀ state, (e.putWheel source state).Rows P ∧ (e.putWheel source state).Emits P n :=
      fun state => ⟨rows_putWheel h.1 hP state, h.2⟩
    have hframe : ∀ state frames, ((e.putWheel source state).emit (some source) frames).Rows P ∧
        ((e.putWheel source state).emit (some source) frames).Emits P n :=
      fun state frames => ⟨rows_emit (hput state).1 _ _, emits_emit (hput state).2 (only hP) _⟩
    split
    · exact hput _
    all_goals
      dsimp only
      split
      · exact ⟨rows_stopWheel (hput _).1 hP now, emits_stopWheel (hput _).2 hP now⟩
      · exact hframe _ _
      · exact hframe _ _
      · exact hput _
      · exact hput _

theorem due_advanceMotion (now : Nat) (h : e.Rows P ∧ e.Emits P n) (source : ScrollSource) :
    (advanceMotion now e source).Rows P ∧ (advanceMotion now e source).Emits P n := by
  unfold advanceMotion
  split
  · exact h
  · rename_i hg
    have hP := source_of_get? h.1.active hg
    refine ⟨rows_emitUpdate (rows_updated h.1 hP _ _) _ _ _, emits_emitUpdate ?_ hP _ _⟩
    exact h.2

/-- **The frames that are due are emitted for sources that have a state.** -/
theorem due_advanceDue (h : e.Rows P ∧ e.Emits P n) (now : Nat) :
    (e.advanceDue now).Rows P ∧ (e.advanceDue now).Emits P n :=
  Lib.foldl_keeps (fun e : ScrollEngine F => e.Rows P ∧ e.Emits P n)
    (fun _ source he => due_advanceMotion now he source) _ _
    (Lib.foldl_keeps (fun e : ScrollEngine F => e.Rows P ∧ e.Emits P n)
      (fun _ source he => due_advanceWheel now he source) _ _
      ⟨rows_endIdlePhased h.1 now, emits_endIdlePhased h.2 now⟩)

end ScrollEngine

end Scroll
end OpenLogi
