import OpenLogi.Scroll.Fading
/-!
# Cancellation — a cancelled session is silent

The worker's steps keep the invariant, and emit nothing for a session in its fade.  Once the worker has handled the
cancellation of a session, in whichever form it came, nothing is emitted for the session any more, nor for an older
one of the device that was cancelled before it.
-/
namespace OpenLogi
namespace Scroll

open Button (HidppSessionId)

variable {F : Type} [F64 F] {s s' : ScrollSystem F} {session : HidppSessionId}

namespace ScrollSystem

/-! ## The worker waits -/

/-- What a step of the worker does that handles nothing. -/
structure Stood (s s' : ScrollSystem F) : Prop where
  generation : s'.generation = s.generation
  preparing : s'.preparing = s.preparing
  cancelling : s'.cancelling = s.cancelling
  controls : s'.controls = s.controls
  began : s'.began = s.began
  delivered : s'.delivered = s.delivered
  handled : s'.handled = s.handled
  pending : s'.pending = s.pending
  cancellations : s'.worker.cancellations = s.worker.cancellations
  rows : ∀ P, s.worker.engine.Rows P → s'.worker.engine.Rows P
  emitted : s'.worker.engine.emitted = s.worker.engine.emitted
  direct : s'.worker.direct = s.worker.direct
  stopped : s'.isStopped = s.isStopped
  draining : s.phase = .draining → s'.phase = .draining ∨ s.controls = []
  hand : s'.phase.inHand = some .timeout → s.phase.inHand = some .timeout ∨ s.pending = []

theorem stood_refl (s : ScrollSystem F) : Stood s s where
  generation := rfl
  preparing := rfl
  cancelling := rfl
  controls := rfl
  began := rfl
  delivered := rfl
  handled := rfl
  pending := rfl
  cancellations := rfl
  rows := fun _ h => h
  emitted := rfl
  direct := rfl
  stopped := rfl
  draining := .inl
  hand := .inl

theorem Stood.fading (h : Stood s s') (hs : s.Fading session) : s'.Fading session := by
  have hspent : s.InputsSpent session → s'.InputsSpent session := by
    intro hs input hinput hin
    rw [h.cancellations]
    exact hs input (h.pending ▸ hinput) hin
  rcases hs with hs | ⟨hrows, hs⟩ | ⟨generation, hs, hphase⟩ | ⟨hs, hspent', hhand⟩
  · exact .stopped (h.stopped.trans hs)
  · exact .dead (h.rows _ hrows) (hspent hs)
  · rcases h.draining hphase with hphase | hnil
    · exact .drained generation (h.controls ▸ hs) hphase
    · rw [hnil] at hs
      cases hs
  · refine .queued (h.pending ▸ hs) (hspent hspent') fun htimeout => ?_
    rcases h.hand htimeout with htimeout | hnil
    · exact hhand htimeout
    · rw [hnil] at hs
      cases hs

theorem Stood.owed (h : Stood s s') {q : ScrollCommand F → Prop} {k : ScrollControl → Prop}
    (hs : s.Owed q k session) : s'.Owed q k session := by
  unfold Owed
  rw [h.stopped, h.handled, h.pending, h.controls]
  exact hs

theorem Inv.stood (hi : s.Inv) (h : Stood s s') : s'.Inv where
  entered := by rw [h.cancellations, h.generation]; exact hi.entered
  prepared := by rw [h.preparing, h.generation]; exact hi.prepared
  queued := by rw [h.pending, h.generation]; exact hi.queued
  bound := by rw [h.began, h.generation]; exact hi.bound
  inputs := by rw [h.began, h.pending]; exact hi.inputs
  rows := by
    rw [h.began, h.cancellations]
    exact fun session b hb hlt => h.rows _ (hi.rows session b hb hlt)
  calls := by rw [h.cancelling, h.began, h.generation]; exact hi.calls
  controls := by rw [h.controls, h.began, h.generation]; exact hi.controls
  cancels := by rw [h.pending, h.began]; exact hi.cancels
  fifo := by rw [h.pending]; exact hi.fifo
  watermark := by rw [h.cancellations, h.began]; exact hi.watermark
  delivered := by
    rw [h.delivered, h.began]
    exact fun session hd => ⟨(hi.delivered session hd).1, h.owed (hi.delivered session hd).2⟩
  earlier := by
    rw [h.began]
    exact fun session b hb older hold =>
      ⟨(hi.earlier session b hb older hold).1, h.owed (hi.earlier session b hb older hold).2⟩
  handled := by
    rw [h.handled, h.began]
    intro session hh
    obtain ⟨hfading, b, hb, holder⟩ := hi.handled session hh
    exact ⟨h.fading hfading, b, hb, fun older hold hkey hepoch => h.fading (holder older hold hkey hepoch)⟩

/-! ## The worker takes a control -/

theorem not_stopped {phase : WorkerPhase F} (hphase : s.phase = phase) (hne : phase ≠ .stopped) :
    s.isStopped ≠ true := by
  unfold isStopped
  rw [hphase]
  cases phase <;> simp_all

section
variable {rest : List ScrollControl} {generation : Nat}

variable {control : ScrollControl}

theorem owed_takeControl {q : ScrollCommand F → Prop} {k : ScrollControl → Prop} {own : HidppSessionId}
    (hphase : s.phase = .draining) (hcontrols : s.controls = control :: rest) (hs : s.Owed q k own) :
    (s.takeControl control rest).Owed q k own := by
  cases control with
  | shutdown => exact .inl rfl
  | cancelOverflowSession session generation =>
    rcases hs with hs | hs | hs | hs
    · exact absurd hs (not_stopped hphase (by simp))
    · exact .inr (.inl (List.mem_cons_of_mem _ hs))
    · exact .inr (.inr (.inl hs))
    · rw [hcontrols] at hs
      rcases hs.serve with ⟨_, hs⟩ | hs
      · cases hs
        exact .inr (.inl List.mem_cons_self)
      · exact .inr (.inr (.inr hs))

theorem fading_takeOwn (hi : s.Inv) (hcontrols : s.controls = .cancelOverflowSession session generation :: rest) :
    (s.takeControl (.cancelOverflowSession session generation) rest).Fading session := by
  obtain ⟨b, hb, hle, hshared⟩ := hi.controls session generation (hcontrols ▸ List.mem_cons_self)
  refine .dead ?_ fun input hinput hin => ?_
  · have hcaught := (s.worker.caught_cases hi.entered hshared).2.2
    change (s.worker.cancelOverflow session generation s.generation).engine.Rows _
    rw [Worker.engine_cancelOverflow]
    split
    · exact ScrollEngine.rows_cancelled _ _
    · exact Worker.rows_caught_lt (hi.rows session b hb) (by omega)
  · exact Worker.spent_of_cancelOverflow rfl (Nat.le_refl _) hi.entered hshared
      ((hi.inputs session b hb input hinput hin).trans hle)

theorem fading_takeControl (hi : s.Inv) {own : HidppSessionId} (hphase : s.phase = .draining)
    (hcontrols : s.controls = control :: rest) (hs : s.Fading own) : (s.takeControl control rest).Fading own := by
  cases control with
  | shutdown => exact .stopped rfl
  | cancelOverflowSession session generation =>
    have hspent : s.InputsSpent own → (s.takeControl (.cancelOverflowSession session generation) rest).InputsSpent own :=
      fun hs input hinput hin => Worker.spent_cancelOverflow (hs input hinput hin) session hi.entered
    rcases hs with hs | ⟨hrows, hs⟩ | ⟨g, hs, -⟩ | ⟨hs, hspent', hhand⟩
    · exact absurd hs (not_stopped hphase (by simp))
    · exact .dead (Worker.rows_cancelOverflow hrows _ _ _) (hspent hs)
    · rw [hcontrols] at hs
      rcases List.mem_cons.1 hs with hs | hs
      · cases hs
        exact fading_takeOwn hi hcontrols
      · exact .drained g hs hphase
    · exact .queued hs (hspent hspent') hhand

theorem fading_takeOlder (hi : s.Inv) (hphase : s.phase = .draining)
    (hcontrols : s.controls = .cancelOverflowSession session generation :: rest) {b : Began}
    (hb : s.began session = some b) {older : HidppSessionId} (hold : older ∈ b.earlier)
    (hkey : older.deviceKey = session.deviceKey) (hepoch : older.epoch ≤ session.epoch) :
    (s.takeControl (.cancelOverflowSession session generation) rest).Fading older := by
  obtain ⟨b', hb', hle, hshared⟩ := hi.controls session generation (hcontrols ▸ List.mem_cons_self)
  obtain rfl : b = b' := Option.some.inj (hb.symm.trans hb')
  obtain ⟨⟨bo, hbo, hbounds⟩, howed⟩ := hi.earlier session b hb older hold
  rcases howed with hs | hs | hs | hs
  · exact absurd hs (not_stopped hphase (by simp))
  · exact fading_takeControl hi hphase hcontrols (hi.handled older hs).1
  · obtain ⟨c, hc, rfl⟩ := hs.exists
    refine .queued hc (fun input hinput hin => ?_) (by simp [takeControl, hphase, WorkerPhase.inHand])
    exact Worker.spent_of_cancelOverflow hkey hepoch hi.entered hshared
      (((hi.inputs older bo hbo input hinput hin).trans hbounds).trans hle)
  · rw [hcontrols] at hs
    obtain ⟨_, heq⟩ := hs.head ⟨generation, rfl⟩
    cases heq
    exact fading_takeOwn hi hcontrols

theorem Inv.takeControl (hi : s.Inv) (hphase : s.phase = .draining) (hcontrols : s.controls = control :: rest) :
    (s.takeControl control rest).Inv := by
  have hrest : ∀ session generation, .cancelOverflowSession session generation ∈ rest →
      .cancelOverflowSession session generation ∈ s.controls :=
    fun _ _ h => hcontrols ▸ List.mem_cons_of_mem _ h
  have howed : ∀ {q k own}, s.Owed q k own → (s.takeControl control rest).Owed q k own :=
    fun h => owed_takeControl hphase hcontrols h
  cases control with
  | shutdown =>
    exact
      { entered := hi.entered
        prepared := hi.prepared
        queued := fun input h => hi.queued input (mem_commands h)
        bound := hi.bound
        inputs := fun session b hb input h => hi.inputs session b hb input (mem_commands h)
        rows := fun _ _ _ _ => ScrollEngine.rows_cancelAll _
        calls := hi.calls
        controls := fun session generation h => hi.controls session generation (hrest _ _ h)
        cancels := fun session h => hi.cancels session (mem_commands h)
        fifo := hi.fifo.sublist (List.sublist_append_right _ _)
        watermark := hi.watermark
        delivered := fun session hd => ⟨(hi.delivered session hd).1, .inl rfl⟩
        earlier := fun session b hb older hold => ⟨(hi.earlier session b hb older hold).1, .inl rfl⟩
        handled := fun session hh => by
          obtain ⟨-, b, hb, -⟩ := hi.handled session hh
          exact ⟨.stopped rfl, b, hb, fun _ _ _ _ => .stopped rfl⟩ }
  | cancelOverflowSession session generation =>
    obtain ⟨b, hb, hle, hshared⟩ := hi.controls session generation (hcontrols ▸ List.mem_cons_self)
    refine
      { entered := ?_
        prepared := hi.prepared
        queued := hi.queued
        bound := hi.bound
        inputs := hi.inputs
        rows := fun own bo hbo hlt => ?_
        calls := hi.calls
        controls := fun own g h => hi.controls own g (hrest _ _ h)
        cancels := hi.cancels
        fifo := hi.fifo
        watermark := fun key epoch h => ?_
        delivered := fun own hd => ⟨(hi.delivered own hd).1, howed (hi.delivered own hd).2⟩
        earlier := fun own bo hbo older hold =>
          ⟨(hi.earlier own bo hbo older hold).1, howed (hi.earlier own bo hbo older hold).2⟩
        handled := fun own hh => ?_ }
    · change (s.worker.cancelOverflow session generation s.generation).cancellations.generation ≤ s.generation
      rw [Worker.generation_cancelOverflow]
      exact (s.worker.caught_cases hi.entered hshared).2.1
    · change (s.worker.cancelOverflow session generation s.generation).engine.Rows _
      change _ < (s.worker.cancelOverflow session generation s.generation).cancellations.generation at hlt
      rw [Worker.generation_cancelOverflow] at hlt
      have hrows := Worker.rows_caught_lt (hi.rows own bo hbo) hlt
      rw [Worker.engine_cancelOverflow]
      split
      · exact ScrollEngine.rows_cancelSession hrows session
      · exact hrows
    · rcases Worker.sessions_cancelOverflow h with h | ⟨rfl, rfl⟩
      · exact hi.watermark key epoch h
      · exact Option.isSome_iff_exists.2 ⟨b, hb⟩
    · rcases List.mem_cons.1 hh with rfl | hh
      · exact ⟨fading_takeOwn hi hcontrols, b, hb, fun older hold hkey hepoch =>
          fading_takeOlder hi hphase hcontrols hb hold hkey hepoch⟩
      · obtain ⟨hfading, bo, hbo, holder⟩ := hi.handled own hh
        exact ⟨fading_takeControl hi hphase hcontrols hfading, bo, hbo, fun older hold hkey hepoch =>
          fading_takeControl hi hphase hcontrols (holder older hold hkey hepoch)⟩

end

/-! ## The worker handles what it received -/

section
variable {received : Received F} {toggled : Bool} {now : Nat}

theorem pending_observed (hphase : s.phase = .observed received toggled) :
    s.pending = received.command?.toList ++ s.commands := by
  unfold pending
  rw [hphase]
  rfl

theorem pending_finish : (s.finish received toggled now).pending = s.commands := by
  unfold pending ScrollSystem.finish
  cases received.isDisconnected <;> rfl

/-- What was received admits nothing of a session whose pending input is spent. -/
theorem admits_of_spent (hi : s.Inv) (hphase : s.phase = .observed received toggled) (hs : s.InputsSpent session) :
    (s.worker.catchUp s.generation toggled).Admits (NotOf session) received := by
  rintro input rfl haccepts
  refine notOf_of_spent (fun hin => ?_) haccepts
  exact (hs input (by simp [pending_observed hphase, Received.command?]) hin).advanceTo hi.entered

theorem spent_finish (hi : s.Inv) (hphase : s.phase = .observed received toggled) (hs : s.InputsSpent session) :
    (s.finish received toggled now).InputsSpent session := by
  intro input hinput hin
  rw [pending_finish] at hinput
  change Spent session (((s.worker.catchUp s.generation toggled).handle received now).cancellations) input
  rw [Worker.cancellations_handle]
  refine (hs input ?_ hin).advanceTo hi.entered
  rw [pending_observed hphase]
  exact List.mem_append_right _ hinput

theorem owed_finish {q : ScrollCommand F → Prop} {k : ScrollControl → Prop} {own : HidppSessionId}
    (hphase : s.phase = .observed received toggled) (hs : s.Owed q k own) :
    (s.finish received toggled now).Owed q k own := by
  rcases hs with hs | hs | hs | hs
  · exact absurd hs (not_stopped hphase (by simp))
  · exact .inr (.inl (List.mem_append_right _ hs))
  · rw [pending_observed hphase] at hs
    unfold Owed
    rw [pending_finish]
    rcases received with command | - | -
    · rcases hs.serve with rfl | hs
      · exact .inr (.inl List.mem_cons_self)
      · exact .inr (.inr (.inl hs))
    · exact .inr (.inr (.inl hs))
    · exact .inr (.inr (.inl hs))
  · exact .inr (.inr (.inr hs))

/-- The session whose command was in hand. -/
theorem fading_finishOwn (hi : s.Inv) (hphase : s.phase = .observed received toggled)
    (hreceived : received = .command (.cancelSession session)) :
    (s.finish received toggled now).Fading session := by
  subst hreceived
  refine .dead (ScrollEngine.rows_cancelled _ _) fun input hinput hin => ?_
  rw [pending_finish] at hinput
  have hfifo := hi.fifo
  rw [pending_observed hphase] at hfifo
  have hnot := (List.pairwise_cons.1 hfifo).1 _ hinput session input rfl rfl
  rw [NotOf, hin] at hnot
  cases hnot

theorem fading_finish (hi : s.Inv) (hphase : s.phase = .observed received toggled) (hs : s.Fading session) :
    (s.finish received toggled now).Fading session := by
  rcases hs with hs | ⟨hrows, hs⟩ | ⟨generation, -, hdraining⟩ | ⟨hs, hspent, -⟩
  · exact absurd hs (not_stopped hphase (by simp))
  · refine .dead ?_ (spent_finish hi hphase hs)
    exact Worker.rows_handle (Worker.rows_catchUp hrows _ _) (admits_of_spent hi hphase hs) now
  · rw [hphase] at hdraining
    cases hdraining
  · rw [pending_observed hphase] at hs
    rcases List.mem_append.1 hs with hs | hs
    · refine fading_finishOwn hi hphase ?_
      rcases received with command | - | -
      · rw [← List.mem_singleton.1 hs]
      · cases hs
      · cases hs
    · refine .queued ?_ (spent_finish hi hphase hspent) ?_
      · rw [pending_finish]
        exact hs
      unfold ScrollSystem.finish
      cases received.isDisconnected <;> simp [WorkerPhase.inHand]

theorem fading_finishOlder (hi : s.Inv) (hphase : s.phase = .observed received toggled)
    (hreceived : received = .command (.cancelSession session)) {b : Began} (hb : s.began session = some b)
    {older : HidppSessionId} (hold : older ∈ b.earlier) : (s.finish received toggled now).Fading older := by
  obtain ⟨-, howed⟩ := hi.earlier session b hb older hold
  rcases howed with hs | hs | hs | hs
  · exact absurd hs (not_stopped hphase (by simp))
  · exact fading_finish hi hphase (hi.handled older hs).1
  · rw [pending_observed hphase, hreceived] at hs
    cases hs.head rfl
    exact fading_finishOwn hi hphase hreceived
  · obtain ⟨control, hcontrol, generation, rfl⟩ := hs.exists
    subst hreceived
    exact .drained generation hcontrol rfl

theorem Inv.finish (hi : s.Inv) (hphase : s.phase = .observed received toggled) :
    (s.finish received toggled now).Inv := by
  have hpending : ∀ c ∈ (s.finish received toggled now).pending, c ∈ s.pending := by
    intro c hc
    rw [pending_finish] at hc
    exact mem_commands hc
  have howed : ∀ {q k own}, s.Owed q k own → (s.finish received toggled now).Owed q k own :=
    fun h => owed_finish hphase h
  have hcancellations : (s.finish received toggled now).worker.cancellations =
      (s.worker.catchUp s.generation toggled).cancellations := Worker.cancellations_handle _ received now
  refine
    { entered := ?_
      prepared := hi.prepared
      queued := fun input h => hi.queued input (hpending _ h)
      bound := hi.bound
      inputs := fun session b hb input h => hi.inputs session b hb input (hpending _ h)
      rows := fun session b hb hlt => ?_
      calls := hi.calls
      controls := hi.controls
      cancels := fun session h => hi.cancels session (hpending _ h)
      fifo := ?_
      watermark := fun key epoch h => ?_
      delivered := fun session hd => ⟨(hi.delivered session hd).1, howed (hi.delivered session hd).2⟩
      earlier := fun session b hb older hold =>
        ⟨(hi.earlier session b hb older hold).1, howed (hi.earlier session b hb older hold).2⟩
      handled := fun session hh => ?_ }
  · rw [hcancellations, Worker.generation_catchUp]
    exact Nat.le_refl _
  · rw [hcancellations, Worker.generation_catchUp] at hlt
    refine Worker.rows_handle (Worker.rows_catchUp_lt (hi.rows session b hb) toggled hlt) ?_ now
    rintro input rfl haccepts
    -- an input of the session is of the generation its cancellation began in, or of an earlier one
    refine notOf_of_spent (fun hin => .inl ?_) haccepts
    have hle := hi.inputs session b hb input (by simp [pending_observed hphase, Received.command?]) hin
    rw [Worker.generation_catchUp]
    omega
  · rw [pending_finish]
    exact hi.fifo.sublist (List.sublist_append_right _ _)
  · rw [hcancellations] at h
    exact hi.watermark key epoch (Worker.sessions_catchUp h)
  · rcases List.mem_append.1 hh with hh | hh
    · have hreceived : received = .command (.cancelSession session) := by
        rcases received with ⟨_ | own | -⟩ | - | -
        all_goals simp_all [Received.cancelled]
      have hcancel := hi.cancels session (by simp [pending_observed hphase, hreceived, Received.command?])
      obtain ⟨b, hb⟩ := Option.isSome_iff_exists.1 hcancel
      exact ⟨fading_finishOwn hi hphase hreceived, b, hb, fun older hold _ _ =>
        fading_finishOlder hi hphase hreceived hb hold⟩
    · obtain ⟨hfading, b, hb, holder⟩ := hi.handled session hh
      exact ⟨fading_finish hi hphase hfading, b, hb, fun older hold hkey hepoch =>
        fading_finish hi hphase (holder older hold hkey hepoch)⟩

end

/-! ## Runs -/

/-- What one step keeps of a session whose cancellation has begun. -/
structure Kept (s s' : ScrollSystem F) : Prop where
  inv : s'.Inv
  began : ∀ session, (s.began session).isSome = true → (s'.began session).isSome = true
  fading : ∀ session, (s.began session).isSome = true → s.Fading session → s'.Fading session ∧
    ∀ n m, s.worker.Emits (NotOf session) n m → s'.worker.Emits (NotOf session) n m

theorem Inv.kept_produced (hi : s.Inv) (h : Produced s s') : Kept s s' where
  inv := hi.produced h
  began := fun session hsome => by
    obtain ⟨b, hb⟩ := Option.isSome_iff_exists.1 hsome
    exact Option.isSome_iff_exists.2 ⟨b, h.began session b hb⟩
  fading := fun _ hbegan hs => ⟨h.fading hbegan hs, fun _ _ hemits => h.worker ▸ hemits⟩

theorem Inv.kept_stood (hi : s.Inv) (h : Stood s s') : Kept s s' where
  inv := hi.stood h
  began := fun _ hsome => h.began ▸ hsome
  fading := fun _ _ hs => ⟨h.fading hs, fun n m hemits => by
    refine ⟨?_, h.direct ▸ hemits.direct⟩
    unfold ScrollEngine.Emits
    rw [h.emitted]
    exact hemits.frames⟩

theorem Inv.kept_takeControl (hi : s.Inv) {control : ScrollControl} {rest : List ScrollControl}
    (hphase : s.phase = .draining) (hcontrols : s.controls = control :: rest) :
    Kept s (s.takeControl control rest) where
  inv := hi.takeControl hphase hcontrols
  began := fun _ hsome => by cases control <;> exact hsome
  fading := fun session _ hs => ⟨fading_takeControl hi hphase hcontrols hs, fun n m hemits => by
    cases control with
    | shutdown => exact ⟨ScrollEngine.emits_cancelAll hemits.frames, hemits.direct⟩
    | cancelOverflowSession own generation => exact Worker.emits_cancelOverflow hemits own generation s.generation⟩

/-- **What a worker in a session's fade handles is not emitted for the session.** -/
theorem Inv.kept_finish (hi : s.Inv) {received : Received F} {toggled : Bool} {now : Nat}
    (hphase : s.phase = .observed received toggled) : Kept s (s.finish received toggled now) where
  inv := hi.finish hphase
  began := fun _ hsome => hsome
  fading := fun session _ hs => by
    refine ⟨fading_finish hi hphase hs, fun n m hemits => ?_⟩
    have hcaught := Worker.emits_catchUp hemits s.generation toggled
    rcases hs with hs | ⟨hrows, hs⟩ | ⟨generation, -, hdraining⟩ | ⟨hs, hspent, hhand⟩
    · exact absurd hs (not_stopped hphase (by simp))
    · exact Worker.emits_handle hcaught (admits_of_spent hi hphase hs) (.inl (Worker.rows_catchUp hrows _ _)) now
    · rw [hphase] at hdraining
      cases hdraining
    · refine Worker.emits_handle hcaught (admits_of_spent hi hphase hspent) (.inr fun htimeout => hhand ?_) now
      rw [hphase, htimeout]
      rfl

/-! ### One event -/

theorem Inv.kept_send (hi : s.Inv) {i : Nat} (h : systemStep s (.send i) = some s') : Kept s s' := by
  simp only [systemStep] at h
  split at h
  · cases h
  · rename_i input hget
    obtain ⟨hmay, ⟨⟩⟩ := Option.ite_none_right_eq_some.1 h
    exact hi.kept_produced (hi.send hget hmay)

theorem Inv.kept_cancelSend (hi : s.Inv) {i : Nat} (h : systemStep s (.cancelSend i) = some s') : Kept s s' := by
  simp only [systemStep] at h
  split at h
  · cases h
  · rename_i call hget
    obtain ⟨-, h⟩ := Option.ite_none_left_eq_some.1 h
    by_cases hstopped : s.isStopped = true
    · rw [if_pos hstopped] at h
      cases h
      exact hi.kept_produced (hi.calls_erase i)
    rw [if_neg hstopped] at h
    by_cases hroom : inputQueueCapacity ≤ s.commands.length
    · rw [if_pos hroom] at h
      cases h
      exact hi.kept_produced (hi.calls_set hget true)
    · rw [if_neg hroom] at h
      cases h
      exact hi.kept_produced (hi.cancelSend hget)

theorem Inv.kept_cancelOverflow (hi : s.Inv) {i : Nat} (h : systemStep s (.cancelOverflow i) = some s') :
    Kept s s' := by
  simp only [systemStep] at h
  split at h
  · cases h
  · rename_i call hget
    obtain ⟨hfull, ⟨⟩⟩ := Option.ite_none_right_eq_some.1 h
    exact hi.kept_produced (hi.cancelOverflow hget)

theorem Inv.kept_drain (hi : s.Inv) (h : systemStep s .drain = some s') : Kept s s' := by
  simp only [systemStep] at h
  split at h
  · rename_i hphase hnil
    cases h
    exact hi.kept_stood { stood_refl s with
      pending := by simp [pending, hphase, WorkerPhase.inHand]
      stopped := by simp [isStopped, hphase]
      draining := fun _ => .inr hnil
      hand := by simp [WorkerPhase.inHand] }
  · rename_i control rest hphase hcontrols
    cases h
    exact hi.kept_takeControl hphase hcontrols
  · cases h

/-- **A step keeps the invariant, and nothing is emitted for a session in its fade.** -/
theorem Inv.kept (hi : s.Inv) {e : ScrollEvent F} (h : systemStep s e = some s') : Kept s s' := by
  cases e with
  | prepare source impulse output =>
    cases h
    exact hi.kept_produced (hi.prepare source impulse output)
  | send i => exact hi.kept_send h
  | cancelBegin session =>
    cases h
    exact hi.kept_produced (hi.cancelBegin session)
  | cancelSend i => exact hi.kept_cancelSend h
  | cancelOverflow i => exact hi.kept_cancelOverflow h
  | bump =>
    cases h
    exact hi.kept_produced hi.bump
  | wake =>
    cases h
    exact hi.kept_produced (hi.trySend (by simp) (by simp))
  | toggle =>
    cases h
    exact hi.kept_produced { hi.refl_produced with }
  | requestShutdown =>
    cases h
    exact hi.kept_produced (hi.sendControl (by simp))
  | drain => exact hi.kept_drain h
  | receive =>
    simp only [systemStep] at h
    split at h
    · rename_i command rest hphase hcommands
      cases h
      exact hi.kept_stood { stood_refl s with
        pending := by simp [pending, hphase, hcommands, WorkerPhase.inHand, Received.command?]
        stopped := by simp [isStopped, hphase]
        draining := by simp [hphase]
        hand := by simp [WorkerPhase.inHand] }
    · cases h
  | timeout =>
    simp only [systemStep] at h
    split at h
    · rename_i hphase hnil
      cases h
      exact hi.kept_stood { stood_refl s with
        pending := by simp [pending, hphase, WorkerPhase.inHand, Received.command?]
        stopped := by simp [isStopped, hphase]
        draining := by simp [hphase]
        hand := by simp [pending, hphase, hnil, WorkerPhase.inHand] }
    · cases h
  | disconnect =>
    simp only [systemStep] at h
    split at h
    · rename_i hphase hnil
      cases h
      exact hi.kept_stood { stood_refl s with
        pending := by simp [pending, hphase, WorkerPhase.inHand, Received.command?]
        stopped := by simp [isStopped, hphase]
        draining := by simp [hphase]
        hand := by simp [WorkerPhase.inHand] }
    · cases h
  | observe =>
    simp only [systemStep] at h
    split at h
    · rename_i hphase
      cases h
      exact hi.kept_stood { stood_refl s with
        pending := by simp [pending, hphase, WorkerPhase.inHand]
        stopped := by simp [isStopped, hphase]
        draining := by simp [hphase]
        hand := by
          rw [hphase]
          exact .inl }
    · cases h
  | finish now =>
    simp only [systemStep] at h
    split at h
    · rename_i hphase
      cases h
      exact hi.kept_finish hphase
    · cases h
  | rehash active wheels =>
    obtain ⟨engine, hengine, rfl⟩ := Option.map_eq_some_iff.1 h
    obtain ⟨hemitted, hrows⟩ := ScrollEngine.rehash_cases hengine
    exact hi.kept_stood { stood_refl s with
      rows := hrows
      emitted := hemitted
      draining := .inl
      hand := .inl }

/-- **A session in its fade is silent in every run.** -/
theorem silent_run (hi : s.Inv) (hbegan : (s.began session).isSome = true) (hs : s.Fading session)
    {es : List (ScrollEvent F)} (h : Lib.run systemStep s es = some s') :
    s'.worker.Emits (NotOf session) s.worker.engine.emitted.length s.worker.direct.length := by
  refine (Lib.run_inv (fun t : ScrollSystem F => t.Inv ∧ (t.began session).isSome = true ∧ t.Fading session ∧
    t.worker.Emits (NotOf session) s.worker.engine.emitted.length s.worker.direct.length)
    (fun t e t' ht hstep => ?_) es s s' ⟨hi, hbegan, hs, ?_⟩ h).2.2.2
  · obtain ⟨hi, hbegan, hs, hemits⟩ := ht
    have hkept := hi.kept hstep
    obtain ⟨hs', hemits'⟩ := hkept.fading session hbegan hs
    exact ⟨hkept.inv, hkept.began session hbegan, hs', hemits' _ _ hemits⟩
  · exact ⟨by simp [ScrollEngine.Emits], by simp⟩

/-! ## Cancelled and accepted -/

/-- Nothing is emitted, after a session's cancellation was handled, for the session, nor for an older one of the device
whose cancellation was delivered before the session's began. -/
def CancelledIsSilent (s : ScrollSystem F) : Prop :=
  ∀ session ∈ s.handled, ∀ own : HidppSessionId,
    (own = session ∨ own.deviceKey = session.deviceKey ∧ own.epoch ≤ session.epoch ∧
      ∃ b, s.began session = some b ∧ own ∈ b.earlier) →
    ∀ es s', Lib.run systemStep s es = some s' →
      s'.worker.Emits (NotOf own) s.worker.engine.emitted.length s.worker.direct.length

/-- Input of the current generation is accepted, if it is of an OS hook or of a session that is spared. -/
def AcceptsCurrent (spared : ScrollSystem F → HidppSessionId → Prop) (s : ScrollSystem F) (e : ScrollEvent F) : Prop :=
  ∀ now input toggled, e = .finish now → s.phase = .observed (.command (.input input)) toggled →
    input.generation = s.generation →
    (∀ session, input.source.inSession session = true → spared s session) →
    (s.worker.catchUp s.generation toggled).cancellations.accepts input = true

def NotCancelled (s : ScrollSystem F) (session : HidppSessionId) : Prop := s.began session = none

/-- Neither the session nor a newer one of its device was cancelled. -/
def NoneNewerCancelled (s : ScrollSystem F) (session : HidppSessionId) : Prop :=
  ∀ newer : HidppSessionId, newer.deviceKey = session.deviceKey → session.epoch ≤ newer.epoch → s.NotCancelled newer

theorem Inv.acceptsCurrent (hi : s.Inv) (e : ScrollEvent F) : s.AcceptsCurrent NoneNewerCancelled e := by
  rintro now input toggled - - hgeneration hspared
  unfold OverflowCancellations.accepts
  rw [Worker.generation_catchUp, hgeneration, decide_eq_true rfl, Bool.true_and]
  cases hsource : input.source with
  | osHook thread => rfl
  | hidpp session wheel =>
    dsimp only
    cases hwatermark : (s.worker.catchUp s.generation toggled).cancellations.sessions session.deviceKey with
    | none => rfl
    | some epoch =>
      have hbegan := hi.watermark _ epoch (Worker.sessions_catchUp hwatermark)
      rw [Option.all_some, decide_eq_true_eq]
      by_contra hle
      have hnone := hspared session (by simp [hsource, ScrollSource.inSession]) ⟨session.deviceKey, epoch⟩ rfl
        (Nat.le_of_not_lt hle)
      rw [hnone] at hbegan
      cases hbegan

/-- **A cancelled session is silent, and input that no cancellation is about is accepted**, in every interleaving. -/
theorem cancellation_run (smoothing : Bool) (es : List (ScrollEvent F)) :
    Lib.EveryState systemStep CancelledIsSilent (init smoothing) es ∧
      Lib.Along systemStep (AcceptsCurrent NoneNewerCancelled) (init smoothing) es := by
  have hinv : ∀ (s : ScrollSystem F) e s', s.Inv → systemStep s e = some s' → s'.Inv :=
    fun _ _ _ hi h => (hi.kept h).inv
  refine ⟨?_, Lib.along_of_inv Inv (fun _ e hi => hi.acceptsCurrent e) hinv (inv_init smoothing)⟩
  intro pre s _ hpre session hh own hown es' s' h
  have hi := Lib.run_inv Inv hinv pre _ s (inv_init smoothing) hpre
  obtain ⟨hfading, b, hb, holder⟩ := hi.handled session hh
  rcases hown with rfl | ⟨hkey, hepoch, b', hb', hold⟩
  · exact silent_run hi (Option.isSome_iff_exists.2 ⟨b, hb⟩) hfading h
  · obtain rfl : b = b' := Option.some.inj (hb.symm.trans hb')
    obtain ⟨⟨bo, hbo, -⟩, -⟩ := hi.earlier session b hb own hold
    exact silent_run hi (Option.isSome_iff_exists.2 ⟨bo, hbo⟩) (holder own hold hkey hepoch) h

section

attribute [local instance] plainRationals

/-- Whether the input in hand is of the current generation, of a session that was not cancelled, and rejected. -/
def rejectsLive (s : ScrollSystem ℚ) : Bool :=
  match s.phase with
  | .observed (.command (.input input)) toggled =>
    match input.source with
    | .osHook _ => false
    | .hidpp session _ => input.generation = s.generation && (s.began session).isNone &&
        !(s.worker.catchUp s.generation toggled).cancellations.accepts input
  | _ => false

/-- Input of a mouse's first session, the queue filled up, and the second session cancelled by an overflow control. -/
def overflowRun : List (ScrollEvent ℚ) :=
  [.prepare (.hidpp ⟨"mouse", 1⟩ .thumb) ⟨1, 0⟩ (.phased 0), .send 0] ++ List.replicate 127 .wake ++
    [.cancelBegin ⟨"mouse", 2⟩, .cancelSend 0, .cancelOverflow 0, .drain, .drain, .receive, .observe]

/-- **A session that was not cancelled is rejected with its successor.** -/
theorem predecessor_is_rejected :
    ¬∀ (smoothing : Bool) (es : List (ScrollEvent ℚ)),
      Lib.Along systemStep (AcceptsCurrent NotCancelled) (init smoothing) es := by
  intro h
  have hrun : ((Lib.run systemStep (init false) overflowRun).map rejectsLive) = some true := by
    decide +kernel
  obtain ⟨s, hs, hrejects⟩ := Option.map_eq_some_iff.1 hrun
  have hat := (h false (overflowRun ++ [.finish 0])).at hs
  unfold rejectsLive at hrejects
  split at hrejects
  · rename_i input toggled hphase
    split at hrejects
    · cases hrejects
    · rename_i session wheel hsource
      simp only [Bool.and_eq_true, decide_eq_true_eq, Bool.not_eq_true', Option.isNone_iff_eq_none] at hrejects
      obtain ⟨⟨hgeneration, hnone⟩, hrejected⟩ := hrejects
      have haccepts := hat 0 input toggled rfl hphase hgeneration fun own hown => by
        rw [hsource] at hown
        obtain rfl : session = own := by simpa [ScrollSource.inSession] using hown
        exact hnone
      rw [hrejected] at haccepts
      cases haccepts
  · cases hrejects

end

end ScrollSystem

end Scroll
end OpenLogi
