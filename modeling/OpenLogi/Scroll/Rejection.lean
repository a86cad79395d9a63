import OpenLogi.Scroll.Worker
/-!
# Rejection — what the worker emits, and what it rejects

What the worker handles is emitted for the source of the input, a due frame for a source that has a state.  An input
of an earlier generation, or at its device's watermark or under it, stays rejected.
-/
namespace OpenLogi
namespace Scroll

open Button (HidppSessionId)

variable {F : Type} [F64 F] {P : ScrollSource → Prop} {n m : Nat} {w : Worker F}

/-! ## What the worker emits -/

namespace Worker

/-- A condition on the sources of all output, from the `n`-th frame and the `m`-th distance on. -/
structure Emits (P : ScrollSource → Prop) (n m : Nat) (w : Worker F) : Prop where
  frames : w.engine.Emits P n
  direct : ∀ x ∈ w.direct.drop m, P x.1

theorem emits_catchUp (h : w.Emits P n m) (generation : Nat) (toggled : Bool) :
    (w.catchUp generation toggled).Emits P n m := by
  unfold catchUp
  dsimp only
  refine ⟨?_, h.direct⟩
  dsimp only
  split
  · exact ScrollEngine.emits_cancelAll h.frames
  · exact h.frames

theorem rows_catchUp (h : w.engine.Rows P) (generation : Nat) (toggled : Bool) :
    (w.catchUp generation toggled).engine.Rows P := by
  unfold catchUp
  dsimp only
  split
  · exact ScrollEngine.rows_cancelAll _
  · exact h

theorem emits_caught (h : w.Emits P n m) (cancelled shared : Nat) : (w.caught cancelled shared).Emits P n m := by
  unfold caught
  split
  · exact emits_catchUp h shared false
  · exact h

theorem rows_caught (h : w.engine.Rows P) (cancelled shared : Nat) : (w.caught cancelled shared).engine.Rows P := by
  unfold caught
  split
  · exact rows_catchUp h shared false
  · exact h

theorem emits_cancelSession (h : w.Emits P n m) (session : HidppSessionId) : (w.cancelSession session).Emits P n m :=
  ⟨ScrollEngine.emits_cancelSession h.frames session, h.direct⟩

theorem rows_cancelSession (h : w.engine.Rows P) (session : HidppSessionId) :
    (w.cancelSession session).engine.Rows P :=
  ScrollEngine.rows_cancelSession h session

theorem emits_cancelOverflow (h : w.Emits P n m) (session : HidppSessionId) (cancelled shared : Nat) :
    (w.cancelOverflow session cancelled shared).Emits P n m := by
  have hcaught := emits_caught h cancelled shared
  unfold cancelOverflow
  dsimp only
  split
  · exact ⟨ScrollEngine.emits_cancelSession hcaught.frames session, hcaught.direct⟩
  · exact ⟨hcaught.frames, hcaught.direct⟩

theorem rows_cancelOverflow (h : w.engine.Rows P) (session : HidppSessionId) (cancelled shared : Nat) :
    (w.cancelOverflow session cancelled shared).engine.Rows P := by
  have hcaught := rows_caught h cancelled shared
  unfold cancelOverflow
  dsimp only
  split
  · exact ScrollEngine.rows_cancelSession hcaught session
  · exact hcaught

/-- **What is submitted is emitted for its source.** -/
theorem emits_submit (h : w.Emits P n m) {input : ScrollInput F} (hP : P input.source) :
    (w.submit input).Emits P n m := by
  unfold submit
  split
  · exact ⟨ScrollEngine.emits_impulse h.frames hP _ _, h.direct⟩
  · exact ⟨ScrollEngine.emits_wheelImpulse h.frames hP _ _ _ _, h.direct⟩
  · exact ⟨ScrollEngine.emits_phasedImpulse h.frames hP _ _, h.direct⟩
  · refine ⟨ScrollEngine.emits_cancelSource h.frames input.source, fun x hx => ?_⟩
    rcases ScrollEngine.mem_drop_append hx with hx | hx
    · exact h.direct x hx
    · rw [List.mem_singleton.1 hx]
      exact hP

theorem rows_submit (h : w.engine.Rows P) {input : ScrollInput F} (hP : P input.source) :
    (w.submit input).engine.Rows P := by
  unfold submit
  split
  · exact ScrollEngine.rows_impulse h hP _ _
  · exact ScrollEngine.rows_wheelImpulse h hP _ _ _ _
  · exact ScrollEngine.rows_phasedImpulse h hP _ _
  · exact ScrollEngine.rows_cancelSource h input.source

/-- Whether what was received, if it is an accepted input, is one of a source in `P`. -/
def Admits (P : ScrollSource → Prop) (w : Worker F) (received : Received F) : Prop :=
  ∀ input, received = .command (.input input) → w.cancellations.accepts input = true → P input.source

theorem rows_handle (h : w.engine.Rows P) {received : Received F} (hP : w.Admits P received) (now : Nat) :
    (w.handle received now).engine.Rows P := by
  rcases received with ⟨input | session | -⟩ | - | -
  · unfold handle
    dsimp only
    split
    · rename_i haccepts
      exact rows_submit h (hP input rfl haccepts)
    · exact h
  · exact rows_cancelSession h session
  · exact h
  · exact (ScrollEngine.due_advanceDue (n := w.engine.emitted.length) ⟨h, by simp [ScrollEngine.Emits]⟩ now).1
  · exact ScrollEngine.rows_cancelAll _

/-- **What is handled is emitted for its source**; a due frame, for a source that has a state. -/
theorem emits_handle (h : w.Emits P n m) {received : Received F} (hP : w.Admits P received)
    (hrows : w.engine.Rows P ∨ received ≠ .timeout) (now : Nat) : (w.handle received now).Emits P n m := by
  rcases received with ⟨input | session | -⟩ | - | -
  · unfold handle
    dsimp only
    split
    · rename_i haccepts
      exact emits_submit h (hP input rfl haccepts)
    · exact h
  · exact emits_cancelSession h session
  · exact h
  · have hrows := hrows.resolve_right fun hne => hne rfl
    exact ⟨(ScrollEngine.due_advanceDue ⟨hrows, h.frames⟩ now).2, h.direct⟩
  · exact ⟨ScrollEngine.emits_cancelAll h.frames, h.direct⟩

@[simp] theorem cancellations_submit (w : Worker F) (input : ScrollInput F) :
    (w.submit input).cancellations = w.cancellations := by
  unfold submit
  split <;> rfl

@[simp] theorem cancellations_handle (w : Worker F) (received : Received F) (now : Nat) :
    (w.handle received now).cancellations = w.cancellations := by
  rcases received with ⟨input | session | -⟩ | - | -
  · unfold handle
    dsimp only
    split
    · exact cancellations_submit w input
    · rfl
  all_goals rfl

end Worker

/-! ## What the cancellations reject -/

/-- An input that stays rejected: of an earlier generation, or of this one and at or under the device's watermark. -/
def Spent (session : HidppSessionId) (cancellations : OverflowCancellations) (input : ScrollInput F) : Prop :=
  input.generation < cancellations.generation ∨
    input.generation = cancellations.generation ∧
      ∃ epoch, cancellations.sessions session.deviceKey = some epoch ∧ session.epoch ≤ epoch

/-- What is not of a session. -/
def NotOf (session : HidppSessionId) (source : ScrollSource) : Prop := source.inSession session = false

variable {cancellations : OverflowCancellations}

theorem notOf_of_spent {session : HidppSessionId} {input : ScrollInput F}
    (hspent : input.source.inSession session = true → Spent session cancellations input)
    (haccepts : cancellations.accepts input = true) : NotOf session input.source := by
  rw [NotOf, ← Bool.not_eq_true]
  intro hin
  unfold OverflowCancellations.accepts at haccepts
  rw [Bool.and_eq_true, decide_eq_true_eq] at haccepts
  rcases hspent hin with hlt | ⟨-, epoch, hsome, hle⟩
  · omega
  · have hall := haccepts.2
    cases hsource : input.source with
    | osHook thread => rw [hsource] at hin; cases hin
    | hidpp own wheel =>
      rw [hsource] at hin hall
      dsimp only at hall
      obtain rfl : own = session := by simpa [ScrollSource.inSession] using hin
      rw [hsome] at hall
      have hlt : epoch < own.epoch := by simpa using hall
      omega

namespace OverflowCancellations

variable {cancellations : OverflowCancellations}

theorem generation_advanceTo (cancellations : OverflowCancellations) (generation : Nat) :
    (cancellations.advanceTo generation).2.generation = generation := by
  unfold advanceTo
  split
  · exact Eq.symm ‹_›
  · rfl

theorem generation_cancel (cancellations : OverflowCancellations) (session : HidppSessionId) (generation : Nat) :
    (cancellations.cancel session generation).2.generation = cancellations.generation := by
  unfold cancel
  split <;> rfl

variable {generation : Nat}

/-- A watermark after a cancellation: it was there before, or it is the session's. -/
theorem sessions_cancel {session : HidppSessionId} {key : String} {epoch : Nat}
    (h : (cancellations.cancel session generation).2.sessions key = some epoch) :
    cancellations.sessions key = some epoch ∨ key = session.deviceKey ∧ epoch = session.epoch := by
  unfold cancel at h
  split at h
  · exact .inl h
  · dsimp only at h
    by_cases hkey : key = session.deviceKey
    · subst hkey
      rw [Function.update_self, Option.some.injEq] at h
      cases hs : cancellations.sessions session.deviceKey with
      | none =>
        rw [hs] at h
        exact .inr ⟨rfl, h.symm⟩
      | some old =>
        rw [hs] at h
        dsimp only at h
        rcases max_choice old session.epoch with hmax | hmax
        · exact .inl (by rw [← h, hmax])
        · exact .inr ⟨rfl, by rw [← h, hmax]⟩
    · rw [Function.update_of_ne hkey] at h
      exact .inl h

/-- No watermark ever falls. -/
theorem sessions_cancel_le (session : HidppSessionId) (generation : Nat) {key : String} {epoch : Nat}
    (h : cancellations.sessions key = some epoch) :
    ∃ later, (cancellations.cancel session generation).2.sessions key = some later ∧ epoch ≤ later := by
  unfold cancel
  split
  · exact ⟨epoch, h, Nat.le_refl epoch⟩
  · by_cases hkey : key = session.deviceKey
    · subst hkey
      refine ⟨max epoch session.epoch, ?_, Nat.le_max_left _ _⟩
      simp [h]
    · exact ⟨epoch, by simp [hkey, h], Nat.le_refl epoch⟩

theorem cancel_of_eq (session : HidppSessionId) (h : generation = cancellations.generation) :
    (cancellations.cancel session generation).1 = true ∧
      ∃ epoch, (cancellations.cancel session generation).2.sessions session.deviceKey = some epoch ∧
        session.epoch ≤ epoch := by
  unfold cancel
  rw [if_neg (not_not_intro h)]
  refine ⟨rfl, _, Function.update_self .., ?_⟩
  split
  · exact Nat.le_max_right _ _
  · exact Nat.le_refl _

theorem cancel_of_ne {session : HidppSessionId} (h : generation ≠ cancellations.generation) :
    cancellations.cancel session generation = (false, cancellations) := if_pos h

end OverflowCancellations

variable {session : HidppSessionId} {input : ScrollInput F}

theorem Spent.advanceTo (h : Spent session cancellations input) {generation : Nat}
    (hle : cancellations.generation ≤ generation) :
    Spent session (cancellations.advanceTo generation).2 input := by
  by_cases heq : generation = cancellations.generation
  · rw [OverflowCancellations.advanceTo, if_pos heq]
    exact h
  · have hgeneration := cancellations.generation_advanceTo generation
    rcases h with h | ⟨h, -⟩
    all_goals
      refine .inl ?_
      rw [hgeneration]
      omega

theorem Spent.cancel (h : Spent session cancellations input) (other : HidppSessionId) (generation : Nat) :
    Spent session (cancellations.cancel other generation).2 input := by
  have hgeneration := cancellations.generation_cancel other generation
  rcases h with h | ⟨h, epoch, hsome, hle⟩
  · exact .inl (by rw [hgeneration]; exact h)
  · obtain ⟨later, hlater, hle'⟩ := OverflowCancellations.sessions_cancel_le other generation hsome
    exact .inr ⟨by rw [hgeneration]; exact h, later, hlater, hle.trans hle'⟩

namespace Worker

theorem generation_catchUp (w : Worker F) (generation : Nat) (toggled : Bool) :
    (w.catchUp generation toggled).cancellations.generation = generation :=
  w.cancellations.generation_advanceTo generation

/-- A new generation starts with nothing moving. -/
theorem rows_catchUp_lt {bound generation : Nat} (h : bound < w.cancellations.generation → w.engine.Rows P)
    (toggled : Bool) (hlt : bound < generation) : (w.catchUp generation toggled).engine.Rows P := by
  by_cases heq : generation = w.cancellations.generation
  · exact rows_catchUp (h (heq ▸ hlt)) generation toggled
  · unfold catchUp OverflowCancellations.advanceTo
    rw [if_neg heq]
    exact ScrollEngine.rows_cancelAll _

variable {cancelled shared : Nat}

theorem caught_cases (w : Worker F) (hw : w.cancellations.generation ≤ shared) (hc : cancelled ≤ shared) :
    w.cancellations.generation ≤ (w.caught cancelled shared).cancellations.generation ∧
      (w.caught cancelled shared).cancellations.generation ≤ shared ∧
      cancelled ≤ (w.caught cancelled shared).cancellations.generation := by
  unfold caught
  split
  · rw [generation_catchUp]
    exact ⟨hw, Nat.le_refl shared, hc⟩
  · exact ⟨Nat.le_refl _, hw, by omega⟩

theorem cancellations_cancelOverflow (w : Worker F) (session : HidppSessionId) (cancelled shared : Nat) :
    (w.cancelOverflow session cancelled shared).cancellations =
      ((w.caught cancelled shared).cancellations.cancel session cancelled).2 := by
  unfold cancelOverflow
  dsimp only
  split
  · rename_i hcancel
    rw [hcancel]
    rfl
  · rename_i hcancel
    rw [hcancel]

theorem generation_cancelOverflow (w : Worker F) (session : HidppSessionId) (cancelled shared : Nat) :
    (w.cancelOverflow session cancelled shared).cancellations.generation =
      (w.caught cancelled shared).cancellations.generation := by
  rw [cancellations_cancelOverflow, OverflowCancellations.generation_cancel]

theorem spent_caught (h : Spent session w.cancellations input) (hw : w.cancellations.generation ≤ shared) :
    Spent session (w.caught cancelled shared).cancellations input := by
  unfold caught
  split
  · exact h.advanceTo hw
  · exact h

theorem rows_caught_lt {bound : Nat} (h : bound < w.cancellations.generation → w.engine.Rows P)
    (hlt : bound < (w.caught cancelled shared).cancellations.generation) :
    (w.caught cancelled shared).engine.Rows P := by
  unfold caught at hlt ⊢
  split
  · rename_i hc
    rw [if_pos hc, generation_catchUp] at hlt
    exact rows_catchUp_lt h false hlt
  · rename_i hc
    rw [if_neg hc] at hlt
    exact h hlt

theorem sessions_catchUp {generation : Nat} {toggled : Bool} {key : String} {epoch : Nat}
    (h : (w.catchUp generation toggled).cancellations.sessions key = some epoch) :
    w.cancellations.sessions key = some epoch := by
  unfold catchUp OverflowCancellations.advanceTo at h
  dsimp only at h
  split at h
  · exact h
  · cases h

theorem sessions_cancelOverflow {key : String} {epoch : Nat}
    (h : (w.cancelOverflow session cancelled shared).cancellations.sessions key = some epoch) :
    w.cancellations.sessions key = some epoch ∨ key = session.deviceKey ∧ epoch = session.epoch := by
  rw [cancellations_cancelOverflow] at h
  refine (OverflowCancellations.sessions_cancel h).imp_left fun h => ?_
  unfold caught at h
  split at h
  · exact sessions_catchUp h
  · exact h

theorem spent_cancelOverflow (h : Spent session w.cancellations input) (other : HidppSessionId)
    (hw : w.cancellations.generation ≤ shared) :
    Spent session (w.cancelOverflow other cancelled shared).cancellations input := by
  rw [cancellations_cancelOverflow]
  exact (spent_caught h hw).cancel other cancelled

/-- **An overflow control spends the input of its generation, of its session and of every older one.** -/
theorem spent_of_cancelOverflow {older : HidppSessionId} (hkey : older.deviceKey = session.deviceKey)
    (hepoch : older.epoch ≤ session.epoch) (hw : w.cancellations.generation ≤ shared) (hc : cancelled ≤ shared)
    (hinput : input.generation ≤ cancelled) :
    Spent older (w.cancelOverflow session cancelled shared).cancellations input := by
  have hle := (w.caught_cases hw hc).2.2
  have hgeneration := w.generation_cancelOverflow session cancelled shared
  by_cases heq : input.generation = (w.caught cancelled shared).cancellations.generation
  · have hcancelled : cancelled = (w.caught cancelled shared).cancellations.generation := by omega
    obtain ⟨epoch, hsome, hsession⟩ :=
      (OverflowCancellations.cancel_of_eq session hcancelled).2
    refine .inr ⟨by rw [hgeneration, heq], epoch, ?_, hepoch.trans hsession⟩
    rw [cancellations_cancelOverflow, hkey, hsome]
  · refine .inl ?_
    rw [hgeneration]
    omega

/-- The engine after an overflow control: as it was caught up, or with the session cancelled. -/
theorem engine_cancelOverflow (w : Worker F) (session : HidppSessionId) (cancelled shared : Nat) :
    (w.cancelOverflow session cancelled shared).engine =
      if cancelled = (w.caught cancelled shared).cancellations.generation then
        (w.caught cancelled shared).engine.cancelSession session
      else (w.caught cancelled shared).engine := by
  unfold cancelOverflow
  dsimp only
  split
  · rename_i hcancel
    by_cases heq : cancelled = (w.caught cancelled shared).cancellations.generation
    · rw [if_pos heq]
      rfl
    · rw [OverflowCancellations.cancel_of_ne heq] at hcancel
      cases hcancel
  · rename_i hcancel
    by_cases heq : cancelled = (w.caught cancelled shared).cancellations.generation
    · have htrue := (OverflowCancellations.cancel_of_eq session heq).1
      rw [hcancel] at htrue
      cases htrue
    · rw [if_neg heq]

end Worker

end Scroll
end OpenLogi
