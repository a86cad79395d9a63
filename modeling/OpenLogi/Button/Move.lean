import OpenLogi.Button.Settle
/-!
# Move — what one step can do, and which presses are known

`Move` says once what a step does to the active presses and to the events: a producer accepts a press, commands move or
are lost, or the worker runs one command, with its events put off or emitted, or fires deadlines.  Every invariant over
runs is derived from it.  `Known` is the one that all of them use: the presses still to start have left no event.
-/
namespace OpenLogi
namespace Button

/-! ## The view -/

namespace Pc

/-- Commands that the worker has taken and not processed. -/
def hand : Pc → List ButtonCommand
  | .received command | .synced command => [command]
  | .settle first | .settleSync first | .settleDue first => first.toList
  | _ => []

/-- The presses that the settle pass found due. -/
def due : Pc → List PressToken
  | .pass _ due _ _ => due
  | _ => []

/-- The events that the settle pass has put off. -/
def deferred : Pc → List ButtonRuntimeEvent
  | .pass _ _ deferred _ => deferred
  | _ => []

end Pc

/-- The presses that `commands` may start. -/
def tokens (commands : List ButtonCommand) : List PressToken :=
  commands.flatMap fun command => command.presses.map (·.token)

@[simp] theorem tokens_nil : tokens [] = [] := rfl

@[simp] theorem tokens_append (xs ys : List ButtonCommand) : tokens (xs ++ ys) = tokens xs ++ tokens ys := by
  simp [tokens]

variable {command : ButtonCommand} {s s' : Sys} {events : List ButtonRuntimeEvent} {e : Ev} {press : ActivePress}
  {t : PressToken}

theorem mem_tokens {p : ActivePress} (h : p ∈ command.presses) :
    p.token ∈ tokens [command] := by
  simpa [tokens] using ⟨p, h, rfl⟩

namespace Sys

/-- Accepted commands that the worker has not processed. -/
def pending (s : Sys) : List ButtonCommand := s.calls ++ (s.queue ++ s.pc.hand)

/-- What has been emitted and what the settle pass would emit next. -/
def view (s : Sys) : List ButtonRuntimeEvent := s.emitted ++ emitSettledEvents s.pc.deferred s.pc.due

/-- A settle pass is about to take a late release of a press of which it has put something off. -/
def overtaken (s : Sys) : Bool :=
  match s.pc, s.queue with
  | .pass .recv due deferred _, .input generation (.up key releasedAt) :: _ =>
    generation = s.generation && s.state.active.rows.any fun press =>
      press.key = key && press.token ∈ due && (press.fireLong releasedAt).isSome &&
        deferred.any fun event => event.press.token = press.token
  | _, _ => false

end Sys

/-- The worker does not take a release that would overtake an event of its own press. -/
def InOrder (s : Sys) : Ev → Prop
  | .work => s.overtaken = false
  | _ => True

instance (s : Sys) : ∀ e, Decidable (InOrder s e)
  | .work => inferInstanceAs (Decidable (s.overtaken = false))
  | .tick _ | .call _ | .send _ | .invalidate | .stopAccepting | .requestShutdown | .disconnect | .rehash _ |
    .timeout => isTrue trivial

theorem tokens_pending (s : Sys) :
    tokens s.pending = tokens s.calls ++ (tokens s.queue ++ tokens s.pc.hand) := by
  simp [Sys.pending]

/-! ## Moves -/

/-- The same presses are active, and the worker has emitted and put off the same events. -/
structure Frame (s s' : Sys) : Prop where
  active : ∀ p, p ∈ s'.state.active ↔ p ∈ s.state.active
  emitted : s'.emitted = s.emitted
  due : s'.pc.due = s.pc.due
  deferred : s'.pc.deferred = s.pc.deferred
  exited : s'.pc = .exited → s.pc = .exited

theorem Frame.refl (s : Sys) : Frame s s := ⟨fun _ => Iff.rfl, rfl, rfl, rfl, id⟩

theorem Frame.same (hs : s'.state = s.state) (he : s'.emitted = s.emitted) (hpc : s'.pc = s.pc) :
    Frame s s' :=
  ⟨fun p => by rw [hs], he, by rw [hpc], by rw [hpc], by rw [hpc]; exact id⟩

theorem Frame.holds (h : Frame s s') (t : PressToken) : s'.state.Holds t ↔ s.state.Holds t := by
  simp only [ButtonState.Holds, h.active]

theorem Frame.view (h : Frame s s') : s'.view = s.view := by
  rw [Sys.view, Sys.view, h.emitted, h.due, h.deferred]

/-- Where the events of one command go: they are put off in a pass that goes on or begins, or all that was put off is
emitted with them. -/
inductive Output (s s' : Sys) (events : List ButtonRuntimeEvent) : Prop where
  | putOff (hem : s'.emitted = s.emitted) (hdue : s'.pc.due = s.pc.due)
      (hdef : s'.pc.deferred = s.pc.deferred ++ events) (hpc : s'.pc ≠ .exited)
  | enter (hem : s'.emitted = s.emitted) (hv : s.pc.deferred = []) (hdue : s'.pc.due = s.state.dueLongPresses s.clock)
      (hdef : s'.pc.deferred = events) (hpc : s'.pc ≠ .exited)
  | emit (hem : s'.emitted = s.emitted ++ emitSettledEvents (s.pc.deferred ++ events) s.pc.due)
      (hdue : s'.pc.due = []) (hdef : s'.pc.deferred = []) (hpc : s'.pc = .exited → ∀ t, ¬ s'.state.Holds t)

/-- Outside a pass, events are emitted at once. -/
theorem Output.direct (hdue : s.pc.due = []) (hdef : s.pc.deferred = []) (hem : s'.emitted = s.emitted ++ events)
    (hdue' : s'.pc.due = []) (hdef' : s'.pc.deferred = []) (hpc : s'.pc = .exited → ∀ t, ¬ s'.state.Holds t) :
    Output s s' events :=
  .emit (by rw [hem, hdue, hdef, emitSettledEvents_nil]; rfl) hdue' hdef' hpc

/-- **What a step can do.** -/
inductive Move (s : Sys) (e : Ev) (s' : Sys) : Prop where
  | accept (press : ActivePress) (hf : Frame s s') (hid : press.token.id = s.nextPress)
      (hn : s'.nextPress = s.nextPress + 1) (hu : (tokens s'.pending).Perm (press.token :: tokens s.pending))
  | keep (gone : List PressToken) (hf : Frame s s') (hn : s'.nextPress = s.nextPress)
      (hu : (gone ++ tokens s'.pending).Perm (tokens s.pending))
  | effect (command : ButtonCommand) (generation : Nat) (out : List ButtonRuntimeEvent × ButtonState)
      (gone : List PressToken) (heff : Effect s.state command generation out) (hs : s'.state = out.2)
      (hout : Output s s' out.1) (hn : s'.nextPress = s.nextPress)
      (hu : (tokens [command] ++ (gone ++ tokens s'.pending)).Perm (tokens s.pending))
      (hlate : ∀ press, LateRelease s.state s.pc.due command generation press →
        ∀ event ∈ s.pc.deferred, event.press.token = press.token → ¬ InOrder s e)
  | fire (hs : s'.state = (emitSelectedLongPresses s.state s.pc.due s.clock).2)
      (hem : s'.emitted = s.emitted ++ emitSettledEvents
        (s.pc.deferred ++ (emitSelectedLongPresses s.state s.pc.due s.clock).1) s.pc.due)
      (hdue : s'.pc.due = []) (hdef : s'.pc.deferred = []) (hpc : s'.pc ≠ .exited)
      (hn : s'.nextPress = s.nextPress) (hu : (tokens s'.pending).Perm (tokens s.pending))

/-! ### Producers -/

/-- A producer prepares a command that may not start a press. -/
theorem move_prepare (hc : command.presses = []) (hf : Frame s s') (hn : s'.nextPress = s.nextPress)
    (hcalls : s'.calls = s.calls ++ [command]) (hq : s'.queue = s.queue) (hh : s'.pc.hand = s.pc.hand) :
    Move s e s' := by
  have hnone : tokens [command] = [] := by simp [tokens, hc]
  refine .keep [] hf hn (.of_eq ?_)
  simp only [tokens_pending, hcalls, hq, hh, tokens_append, hnone, List.append_nil, List.nil_append]

theorem move_accept (hc : command.presses = [press]) (hid : press.token.id = s.nextPress) :
    Move s e ({ s with nextPress := s.nextPress + 1 }.prepare command) := by
  refine .accept press (.same rfl rfl rfl) hid rfl ?_
  rw [tokens_pending, tokens_pending]
  simp only [Sys.prepare, tokens_append]
  rw [show tokens [command] = [press.token] by simp [tokens, hc], List.append_assoc]
  exact List.perm_middle

theorem move_call (s : Sys) (e : Ev) (call : Call) : Move s e (s.call call) := by
  have hrefl : Move s e s := .keep [] (.refl s) rfl .rfl
  have hprepare : ∀ command : ButtonCommand, command.presses = [] → Move s e (s.prepare command) :=
    fun _ hc => move_prepare hc (.same rfl rfl rfl) rfl rfl rfl rfl
  cases call with
  | down key binding target now => exact move_accept rfl rfl
  | up key now => exact hprepare _ rfl
  | pulse key binding target now => exact move_accept rfl rfl
  | triggerWhilePressed token action =>
    simp only [Sys.call]
    split
    · exact hprepare _ rfl
    · exact hrefl
  | wheelWhilePressed token =>
    simp only [Sys.call]
    split
    · exact hprepare _ rfl
    · exact hrefl
  | cancel command => cases command <;> first | exact hrefl | exact hprepare _ rfl

/-- A sent command joins the queue or is lost. -/
theorem trySend_frame (s : Sys) (command : ButtonCommand) :
    Frame s (s.trySend command) ∧ (s.trySend command).nextPress = s.nextPress ∧
      ∃ gone, (gone ++ tokens (s.trySend command).pending).Perm (tokens [command] ++ tokens s.pending) := by
  have hlost : ∃ gone, (gone ++ tokens s.pending).Perm (tokens [command] ++ tokens s.pending) := ⟨_, .rfl⟩
  have hsend : ∃ gone, (gone ++ tokens (Sys.pending { s with queue := s.queue ++ [command] })).Perm
      (tokens [command] ++ tokens s.pending) := by
    refine ⟨[], ?_⟩
    simp only [tokens_pending, tokens_append, List.nil_append, List.append_assoc]
    exact (List.Perm.append_left _ (List.perm_append_comm_assoc ..)).trans (List.perm_append_comm_assoc ..)
  have htry : Frame s (s.tryCommand command) ∧ (s.tryCommand command).nextPress = s.nextPress ∧
      ∃ gone, (gone ++ tokens (s.tryCommand command).pending).Perm (tokens [command] ++ tokens s.pending) := by
    unfold Sys.tryCommand
    split
    · exact ⟨.same rfl rfl rfl, rfl, hsend⟩
    · have hwake : tokens s.invalidateAll.pending = tokens s.pending := by
        simp only [tokens_pending, Sys.invalidateAll, Sys.prepare, tokens_append]
        exact congrArg (· ++ _) (List.append_nil _)
      rw [hwake]
      exact ⟨.same rfl rfl rfl, rfl, hlost⟩
  cases command with
  | input stamp input =>
    simp only [Sys.trySend]
    split
    · exact htry
    · exact ⟨.refl s, rfl, hlost⟩
  | wake =>
    simp only [Sys.trySend]
    split
    · exact ⟨.same rfl rfl rfl, rfl, hsend⟩
    · exact ⟨.refl s, rfl, hlost⟩
  | _ => exact htry

theorem move_send {index : Nat} (h : step s (.send index) = some s') : Move s (.send index) s' := by
  simp only [step] at h
  split at h
  · cases h
  · rename_i command hc
    obtain ⟨hlt, hcom⟩ := List.getElem?_eq_some_iff.1 hc
    have hcalls : (tokens [command] ++ tokens (Sys.pending { s with calls := s.calls.eraseIdx index })).Perm
        (tokens s.pending) := by
      have hperm : ([command] ++ s.calls.eraseIdx index).Perm s.calls := by
        rw [← hcom]
        exact List.getElem_cons_eraseIdx_perm hlt
      rw [← tokens_append]
      exact (hperm.append_right (s.queue ++ s.pc.hand)).flatMap_right _
    split at h
    · cases h
      exact .keep _ (.same rfl rfl rfl) rfl hcalls
    · cases h
      obtain ⟨hf, hn, gone, hu⟩ := trySend_frame { s with calls := s.calls.eraseIdx index } command
      exact .keep gone ⟨hf.active, hf.emitted, hf.due, hf.deferred, hf.exited⟩ hn (hu.trans hcalls)

/-! ### The worker -/

/-- The worker goes on, with the same commands in hand. -/
theorem move_goto {pc : Pc} (hd : pc.due = s.pc.due) (hd' : pc.deferred = s.pc.deferred) (hh : pc.hand = s.pc.hand)
    (he : pc ≠ .exited) : Move s e (s.goto pc) := by
  refine .keep [] ⟨fun _ => Iff.rfl, rfl, hd, hd', fun h => absurd h he⟩ rfl (.of_eq ?_)
  rw [tokens_pending, tokens_pending]
  show tokens s.calls ++ (tokens s.queue ++ tokens pc.hand) = _
  rw [hh]

/-- Everything is canceled or the generation refreshed, whatever the worker has in hand. -/
theorem move_cancels {out : List ButtonRuntimeEvent × ButtonState} (heff : Effect s.state .wake 0 out)
    (hs : s'.state = out.2) (hout : Output s s' out.1) (hn : s'.nextPress = s.nextPress) (hc : s'.calls = s.calls)
    (hq : s'.queue = s.queue) (hh : s'.pc.hand = s.pc.hand ∨ s'.pc.hand = []) : Move s e s' := by
  have hlate : ∀ press, LateRelease s.state s.pc.due .wake 0 press →
      ∀ event ∈ s.pc.deferred, event.press.token = press.token → ¬ InOrder s e := by
    rintro _ ⟨-, -, _, _, _, _, hc, -⟩
    cases hc
  have hpend : ∃ gone, (gone ++ tokens s'.pending).Perm (tokens s.pending) := by
    rw [tokens_pending, tokens_pending, hc, hq]
    rcases hh with hh | hh
    · exact ⟨[], by rw [hh]; exact .rfl⟩
    · refine ⟨tokens s.pc.hand, ?_⟩
      rw [hh, tokens_nil, List.append_nil]
      exact (List.perm_append_comm_assoc ..).trans (.append_left _ List.perm_append_comm)
  obtain ⟨gone, hu⟩ := hpend
  exact .effect .wake 0 out gone heff hs hout hn hu hlate

/-- One command is processed, from the queue or out of the worker's hand. -/
theorem move_process (hs : s'.state = (processCommand s.state command s.generation).2)
    (hout : Output s s' (processCommand s.state command s.generation).1) (hn : s'.nextPress = s.nextPress)
    (hc : s'.calls = s.calls) (hq : (command :: (s'.queue ++ s'.pc.hand)).Perm (s.queue ++ s.pc.hand))
    (hlate : ∀ press, LateRelease s.state s.pc.due command s.generation press →
      ∀ event ∈ s.pc.deferred, event.press.token = press.token → ¬ InOrder s e) : Move s e s' := by
  refine .effect command s.generation _ [] (processCommand_effect s.state command s.generation) hs hout hn ?_ hlate
  have hperm : (command :: s'.pending).Perm s.pending := by
    rw [Sys.pending, Sys.pending, hc]
    exact List.perm_middle.symm.trans (.append_left _ hq)
  have htokens : (tokens ([command] ++ s'.pending)).Perm (tokens s.pending) := hperm.flatMap_right _
  rwa [tokens_append] at htokens

theorem LateRelease.overtaken {due : List PressToken} {deferred : List ButtonRuntimeEvent} {limit : Nat}
    {queue : List ButtonCommand} (h : LateRelease s.state due command s.generation press)
    (hpc : s.pc = .pass .recv due deferred limit) (hq : s.queue = command :: queue) {event : ButtonRuntimeEvent}
    (hev : event ∈ deferred) (ht : event.press.token = press.token) : ¬ InOrder s .work := by
  obtain ⟨hp, hd, releasedAt, short, long, deadline, rfl, hb, hle⟩ := h
  have hf : (press.fireLong releasedAt).isSome := Option.isSome_iff_exists.2
    ⟨_, ActivePress.fireLong_eq_some.2 ⟨short, deadline, hb, hle, rfl⟩⟩
  have hover : s.overtaken = true := by
    simp only [Sys.overtaken, hpc, hq, decide_true, Bool.true_and, List.any_eq_true, Bool.and_eq_true,
      decide_eq_true_iff]
    exact ⟨press, hp, ⟨⟨rfl, hd⟩, hf⟩, event, hev, ht⟩
  intro ho
  rw [show s.overtaken = false from ho] at hover
  cases hover

theorem move_workPass {stage : Stage} {due : List PressToken} {deferred : List ButtonRuntimeEvent} {limit : Nat}
    (hpc : s.pc = .pass stage due deferred limit) :
    Move s .work (s.workPass stage due deferred limit) := by
  have hdue : s.pc.due = due := by rw [hpc]; rfl
  have hdef : s.pc.deferred = deferred := by rw [hpc]; rfl
  have hgoto : ∀ stage' limit', Move s .work (s.goto (.pass stage' due deferred limit')) := fun stage' limit' =>
    move_goto hdue.symm hdef.symm (by rw [hpc]; rfl) (by simp)
  have hsettled : ∀ reason, Move s .work (s.settled (s.cancelAll reason) due deferred .exited) := fun reason =>
    move_cancels (cancelAll_effect s reason) rfl
      (.emit (by rw [hdue, hdef]; rfl) rfl rfl fun _ => not_holds_cancelAll s reason) rfl rfl rfl (Or.inr rfl)
  have hsync : ∀ stage' limit', Move s .work (s.refresh.defer s.syncEvents stage' due deferred limit') :=
    fun stage' limit' => move_cancels (syncEvents_effect s) rfl
      (.putOff rfl hdue.symm (by rw [hdef]; rfl) (by simp [Sys.defer])) rfl rfl rfl (Or.inr rfl)
  cases stage with
  | processed =>
    simp only [Sys.workPass]
    split
    · exact hsettled .shutdown
    · exact hgoto _ _
  | checked => exact hsync _ _
  | drain =>
    simp only [Sys.workPass]
    split
    · exact hgoto _ _
    · split
      · exact hsettled .shutdown
      · exact hgoto _ _
  | sync => exact hsync _ _
  | recv =>
    simp only [Sys.workPass]
    split
    · split
      · exact hsettled .sourceEnded
      · exact hgoto _ _
    · rename_i command queue hq
      refine move_process rfl (.putOff rfl hdue.symm (by rw [hdef]; rfl) (by simp [Sys.defer])) rfl rfl ?_
        fun press hpress event hev ht => ?_
      · rw [hq, hpc]
        exact .rfl
      · rw [hdue] at hpress
        exact hpress.overtaken hpc hq (hdef ▸ hev) ht
  | fire =>
    refine .fire (by rw [hdue]; rfl) ?_ rfl rfl (by simp [Sys.workPass, Sys.settled]) rfl ?_
    · rw [hdue, hdef]
      rfl
    · rw [tokens_pending, tokens_pending, hpc]
      exact .rfl

theorem move_workSettleDue {first : Option ButtonCommand} (hpc : s.pc = .settleDue first) :
    Move s .work (s.workSettleDue first) := by
  have hdue : s.pc.due = [] := by rw [hpc]; rfl
  have hdef : s.pc.deferred = [] := by rw [hpc]; rfl
  unfold Sys.workSettleDue
  cases first with
  | none =>
    dsimp only
    split
    · exact move_goto hdue.symm hdef.symm (by rw [hpc]; rfl) (by simp)
    · exact move_cancels .quiet rfl (.enter rfl hdef rfl rfl (by simp [Sys.goto])) rfl rfl rfl (Or.inr rfl)
  | some command =>
    have hlate : ∀ press, LateRelease s.state s.pc.due command s.generation press →
        ∀ event ∈ s.pc.deferred, event.press.token = press.token → ¬ InOrder s .work := by
      rw [hdef]
      exact fun _ _ event hev => absurd hev List.not_mem_nil
    have htaken : (command :: (s.queue ++ [])).Perm (s.queue ++ s.pc.hand) := by
      rw [hpc]
      exact List.perm_append_comm_assoc [command] s.queue []
    dsimp only
    split
    · exact move_process rfl (.direct hdue hdef rfl rfl rfl (by simp [Sys.goto])) rfl rfl htaken hlate
    · exact move_process rfl (.enter rfl hdef rfl rfl (by simp [Sys.defer])) rfl rfl htaken hlate

theorem move_work (h : s.work = some s') : Move s .work s' := by
  have hquiet : Effect s.state .wake 0 ([], s.state) := .quiet
  unfold Sys.work at h
  split at h
  · rename_i hpc
    cases h
    exact move_cancels hquiet rfl
      (.direct (by rw [hpc]; rfl) (by rw [hpc]; rfl) (List.append_nil _).symm rfl rfl (by simp [Sys.goto]))
      rfl rfl rfl (Or.inr rfl)
  · rename_i hpc
    cases h
    split
    · exact move_cancels (cancelAll_effect s .shutdown) rfl
        (.direct (by rw [hpc]; rfl) (by rw [hpc]; rfl) rfl rfl rfl fun _ => not_holds_cancelAll s .shutdown)
        rfl rfl rfl (Or.inr rfl)
    · exact move_goto (by rw [hpc]; rfl) (by rw [hpc]; rfl) (by rw [hpc]; rfl) (by simp)
  · rename_i hpc
    split at h
    · split at h
      · cases h
        exact move_cancels (cancelAll_effect s .sourceEnded) rfl
          (.direct (by rw [hpc]; rfl) (by rw [hpc]; rfl) rfl rfl rfl fun _ => not_holds_cancelAll s .sourceEnded)
          rfl rfl rfl (Or.inr rfl)
      · cases h
    · rename_i command queue hq
      cases h
      refine .keep [] ⟨fun _ => Iff.rfl, rfl, by rw [hpc]; rfl, by rw [hpc]; rfl, by simp [Sys.goto]⟩ rfl ?_
      have hperm : (tokens queue ++ tokens [command]).Perm (tokens ([command] ++ queue)) := by
        rw [tokens_append]
        exact List.perm_append_comm
      rw [tokens_pending, tokens_pending, hpc, hq, List.nil_append]
      exact .append_left _ (hperm.trans (.of_eq (List.append_nil _).symm))
  · rename_i command hpc
    cases h
    exact move_cancels (syncEvents_effect s) rfl
      (.direct (by rw [hpc]; rfl) (by rw [hpc]; rfl) rfl rfl rfl (by simp [Sys.goto]))
      rfl rfl rfl (Or.inl (by rw [hpc]; rfl))
  · rename_i command hpc
    cases h
    split
    · exact move_goto (by rw [hpc]; rfl) (by rw [hpc]; rfl) (by rw [hpc]; rfl) (by simp)
    · refine move_process rfl (.direct (by rw [hpc]; rfl) (by rw [hpc]; rfl) rfl rfl rfl (by simp [Sys.goto])) rfl rfl
        ?_ ?_
      · rw [hpc]
        exact List.perm_append_comm_assoc [command] s.queue []
      · rw [hpc]
        exact fun _ _ event hev => absurd hev List.not_mem_nil
  · rename_i first hpc
    cases h
    split
    · exact move_cancels (cancelAll_effect s .shutdown) rfl
        (.direct (by rw [hpc]; rfl) (by rw [hpc]; rfl) rfl rfl rfl fun _ => not_holds_cancelAll s .shutdown)
        rfl rfl rfl (Or.inr rfl)
    · exact move_goto (by rw [hpc]; rfl) (by rw [hpc]; rfl) (by rw [hpc]; rfl) (by simp)
  · rename_i first hpc
    cases h
    exact move_cancels (syncEvents_effect s) rfl
      (.direct (by rw [hpc]; rfl) (by rw [hpc]; rfl) rfl rfl rfl (by simp [Sys.goto]))
      rfl rfl rfl (Or.inl (by rw [hpc]; rfl))
  · rename_i first hpc
    cases h
    exact move_workSettleDue hpc
  · rename_i stage due deferred limit hpc
    cases h
    exact move_workPass hpc
  · cases h

/-- **Every step is a move.** -/
theorem step_move (h : step s e = some s') : Move s e s' := by
  have hsame : ∀ s' : Sys, Frame s s' → s'.nextPress = s.nextPress → s'.pending = s.pending → Move s e s' :=
    fun s' hf hn hp => .keep [] hf hn (.of_eq (by rw [hp]; rfl))
  cases e with
  | tick elapsed =>
    cases h
    exact hsame _ (.same rfl rfl rfl) rfl rfl
  | call call =>
    simp only [step] at h
    split at h
    · cases h
    · cases h
      exact move_call s _ call
  | send index => exact move_send h
  | invalidate =>
    simp only [step] at h
    split at h
    · cases h
    · cases h
      exact move_prepare rfl (.same rfl rfl rfl) rfl rfl rfl rfl
  | stopAccepting =>
    cases h
    exact hsame _ (.same rfl rfl rfl) rfl rfl
  | requestShutdown =>
    cases h
    exact move_prepare rfl (.same rfl rfl rfl) rfl rfl rfl rfl
  | disconnect =>
    simp only [step] at h
    split at h
    · cases h
      exact hsame _ (.same rfl rfl rfl) rfl rfl
    · cases h
  | rehash rows =>
    simp only [step] at h
    split at h
    · rename_i hperm
      cases h
      exact hsame _ ⟨fun p => hperm.mem_iff, rfl, rfl, rfl, id⟩ rfl rfl
    · cases h
  | timeout =>
    simp only [step] at h
    split at h
    · rename_i hpc
      split at h
      · cases h
        exact move_goto (by rw [hpc]; rfl) (by rw [hpc]; rfl) (by rw [hpc]; rfl) (by simp)
      · cases h
    · cases h
  | work => exact move_work h

/-! ## Known presses -/

/-- Active presses have left an event and have not ended, presses still to start have left none, and the presses of a
settle pass have started and are still pending. -/
structure Known (s : Sys) : Prop where
  held : ∀ t, s.state.Holds t → marks t s.view ≠ []
  ended : ∀ event ∈ s.view, event.mark = .stop → ¬ s.state.Holds event.press.token
  young : ∀ t, s.nextPress ≤ t.id → marks t s.view = [] ∧ t ∉ tokens s.pending
  unborn : ∀ t ∈ tokens s.pending, marks t s.view = []
  nodup : (tokens s.pending).Nodup
  started : ∀ t ∈ s.pc.due, marks t s.emitted ≠ []
  waiting : ∀ p ∈ s.state.active, p.token ∈ s.pc.due → p.behavior.deadline ≠ none

theorem Output.view_perm (h : Output s s' events) :
    s'.view.Perm (s.view ++ events) := by
  have hsettle : ∀ xs due, (emitSettledEvents xs due).Perm xs := emitSettledEvents_perm
  unfold Sys.view
  rw [List.append_assoc]
  cases h with
  | putOff hem hdue hdef hpc =>
    rw [hem, hdef]
    exact .append_left _ ((hsettle _ _).trans ((hsettle _ _).symm.append_right _))
  | enter hem hv hdue hdef hpc =>
    rw [hem, hdef, hv]
    exact .append_left _ (hsettle _ _)
  | emit hem hdue hdef hpc =>
    rw [hem, hdef, List.append_assoc]
    refine .append_left _ (((hsettle _ _).append_right _).trans ?_)
    exact (List.Perm.of_eq (List.append_nil _)).trans ((hsettle _ _).symm.append_right _)

theorem marks_eq_nil_of_perm {xs ys : List ButtonRuntimeEvent} (h : xs.Perm ys) :
    marks t xs = [] ↔ marks t ys = [] := by
  simp only [marks_eq_nil, h.mem_iff]

theorem Output.marks_eq_nil (h : Output s s' events) (t : PressToken) :
    marks t s'.view = [] ↔ marks t s.view = [] ∧ marks t events = [] := by
  rw [marks_eq_nil_of_perm h.view_perm, marks_append, List.append_eq_nil_iff]

/-- A press that has left no event is not among those found due. -/
theorem Known.not_due (h : Known s) (ht : marks t s.view = []) : t ∉ s.pc.due := by
  rw [Sys.view, marks_append, List.append_eq_nil_iff] at ht
  exact fun hd => h.started t hd ht.1

theorem Known.not_holds (h : Known s) (ht : marks t s.view = []) : ¬ s.state.Holds t :=
  fun hl => h.held t hl ht

/-- The presses that a command may start are new. -/
theorem Known.fresh (h : Known s) {rest : List PressToken} (hu : (tokens [command] ++ rest).Perm (tokens s.pending)) :
    ∀ p ∈ command.presses, marks p.token s.view = [] :=
  fun _ hp => h.unborn _ (hu.mem_iff.1 (List.mem_append_left _ (mem_tokens hp)))

/-- The presses found due when a pass begins are active. -/
theorem mem_dueLongPresses {s : ButtonState} {now : Nat} (ht : t ∈ s.dueLongPresses now) :
    ∃ p ∈ s.active, p.token = t ∧ p.behavior.deadline ≠ none := by
  obtain ⟨p, hp, rfl⟩ := List.mem_map.1 ht
  obtain ⟨hp, hd⟩ := List.mem_filter.1 hp
  refine ⟨p, hp, rfl, fun hnone => ?_⟩
  rw [hnone] at hd
  cases hd

theorem Known.accept (h : Known s) (hf : Frame s s') (hid : press.token.id = s.nextPress)
    (hn : s'.nextPress = s.nextPress + 1) (hu : (tokens s'.pending).Perm (press.token :: tokens s.pending)) :
    Known s' := by
  obtain ⟨hm, hnew⟩ := h.young press.token (Nat.le_of_eq hid.symm)
  refine ⟨fun t ht => ?_, fun event hev hm ht => ?_, fun t ht => ?_, fun t ht => ?_, ?_, fun t ht => ?_,
    fun p hp ht => ?_⟩
  · rw [hf.view]
    exact h.held t ((hf.holds t).1 ht)
  · exact h.ended event (hf.view ▸ hev) hm ((hf.holds _).1 ht)
  · rw [hn] at ht
    obtain ⟨hm', hnew'⟩ := h.young t (Nat.le_of_succ_le ht)
    rw [hf.view]
    refine ⟨hm', fun hin => ?_⟩
    rcases List.mem_cons.1 (hu.mem_iff.1 hin) with rfl | hin
    · exact absurd (hid ▸ ht) (Nat.not_succ_le_self _)
    · exact hnew' hin
  · rw [hf.view]
    rcases List.mem_cons.1 (hu.mem_iff.1 ht) with rfl | ht
    · exact hm
    · exact h.unborn t ht
  · exact hu.nodup_iff.2 (List.nodup_cons.2 ⟨hnew, h.nodup⟩)
  · rw [hf.emitted]
    exact h.started t (hf.due ▸ ht)
  · exact h.waiting p ((hf.active p).1 hp) (hf.due ▸ ht)

theorem Known.keep (h : Known s) {gone : List PressToken} (hf : Frame s s') (hn : s'.nextPress = s.nextPress)
    (hu : (gone ++ tokens s'.pending).Perm (tokens s.pending)) : Known s' := by
  have hold : ∀ t ∈ tokens s'.pending, t ∈ tokens s.pending := fun t ht => hu.mem_iff.1 (List.mem_append_right _ ht)
  refine ⟨fun t ht => ?_, fun event hev hm ht => ?_, fun t ht => ?_, fun t ht => ?_, ?_, fun t ht => ?_,
    fun p hp ht => ?_⟩
  · rw [hf.view]
    exact h.held t ((hf.holds t).1 ht)
  · exact h.ended event (hf.view ▸ hev) hm ((hf.holds _).1 ht)
  · rw [hf.view]
    exact ⟨(h.young t (hn ▸ ht)).1, fun hin => (h.young t (hn ▸ ht)).2 (hold t hin)⟩
  · rw [hf.view]
    exact h.unborn t (hold t ht)
  · exact (List.nodup_append.1 (hu.nodup_iff.2 h.nodup)).2.1
  · rw [hf.emitted]
    exact h.started t (hf.due ▸ ht)
  · exact h.waiting p ((hf.active p).1 hp) (hf.due ▸ ht)

/-- Events that only the presses of `born` and active ones leave. -/
theorem Known.output (h : Known s) {born gone : List PressToken} {out : List ButtonRuntimeEvent × ButtonState}
    (hb : Balanced born s.state out) (hborn : ∀ t ∈ born, t ∈ gone) (hs : s'.state = out.2) (hout : Output s s' out.1)
    (hn : s'.nextPress = s.nextPress) (hu : (gone ++ tokens s'.pending).Perm (tokens s.pending))
    (hw : ∀ p ∈ s'.state.active, p.token ∈ s'.pc.due → p.behavior.deadline ≠ none) : Known s' := by
  have hold : ∀ t ∈ tokens s'.pending, t ∈ tokens s.pending := fun t ht => hu.mem_iff.1 (List.mem_append_right _ ht)
  have hnd := List.nodup_append.1 (hu.nodup_iff.2 h.nodup)
  have hgone : ∀ t ∈ born, t ∈ tokens s.pending := fun t ht => hu.mem_iff.1 (List.mem_append_left _ (hborn t ht))
  have hquiet : ∀ t, t ∉ born → marks t s.view = [] → marks t s'.view = [] := fun t hb' hm =>
    (hout.marks_eq_nil t).2 ⟨hm, (hb.rest t hb' (h.not_holds hm)).1⟩
  refine ⟨fun t ht hm => ?_, fun event hev hm ht => ?_, fun t ht => ?_, fun t ht => ?_, hnd.2.1, fun t ht => ?_, hw⟩
  · obtain ⟨hm, hm'⟩ := (hout.marks_eq_nil t).1 hm
    rw [hs] at ht
    by_cases hb' : t ∈ born
    · have hrun := hb.starts t hb' (h.not_holds hm)
      rw [hm', ButtonState.phase_live ht] at hrun
      cases hrun
    · exact (hb.rest t hb' (h.not_holds hm)).2 ht
  · rw [hs] at ht
    rcases List.mem_append.1 (hout.view_perm.mem_iff.1 hev) with hev | hev
    · refine (hb.rest _ (fun hb' => ?_) (h.ended event hev hm)).2 ht
      exact absurd (mem_marks hev rfl) (by rw [h.unborn _ (hgone _ hb')]; exact List.not_mem_nil)
    · exact hb.not_holds hev hm ht
  · obtain ⟨hm, hnew⟩ := h.young t (hn ▸ ht)
    exact ⟨hquiet t (fun hb' => hnew (hgone t hb')) hm, fun h' => hnew (hold t h')⟩
  · exact hquiet t (fun hb' => hnd.2.2 t (hborn t hb') t ht rfl) (h.unborn t (hold t ht))
  · cases hout with
    | putOff hem hdue hdef hpc =>
      rw [hem]
      exact h.started t (hdue ▸ ht)
    | enter hem hv hdue hdef hpc =>
      obtain ⟨p, hp, rfl, -⟩ := mem_dueLongPresses (hdue ▸ ht)
      intro hm
      refine h.held p.token ⟨p, hp, rfl⟩ ?_
      rw [Sys.view, hv, marks_append, ← hem, hm]
      rfl
    | emit hem hdue hdef hpc =>
      rw [hdue] at ht
      cases ht

theorem Known.move (h : Known s) (hm : Move s e s') : Known s' := by
  cases hm with
  | accept press hf hid hn hu => exact h.accept hf hid hn hu
  | keep gone hf hn hu => exact h.keep hf hn hu
  | effect command generation out gone heff hs hout hn hu hlate =>
    have hfresh := h.fresh hu
    obtain ⟨born, hborn, hb⟩ := heff.balanced fun p hp => h.not_holds (hfresh p hp)
    have hsub : ∀ t ∈ born, t ∈ tokens [command] ++ gone := by
      intro t ht
      obtain ⟨p, hp, rfl⟩ := hborn t ht
      exact List.mem_append_left _ (mem_tokens hp)
    -- a press that stays active keeps its deadline
    have hwait : ∀ due : List PressToken, (∀ p ∈ s.state.active, p.token ∈ due → p.behavior.deadline ≠ none) →
        (∀ p ∈ command.presses, p.token ∉ due) → ∀ q ∈ out.2.active, q.token ∈ due → q.behavior.deadline ≠ none := by
      intro due hdue hnew q hq ht
      rcases heff.survivor hq with ⟨p, hp, hpt, hbeh⟩ | hq
      · have hd : q.behavior.deadline = p.behavior.deadline := by
          rcases hbeh with hbeh | hbeh <;> simp [hbeh]
        rw [hd]
        exact hdue p hp (hpt ▸ ht)
      · exact absurd ht (hnew q hq)
    refine h.output hb hsub hs hout hn (by rwa [List.append_assoc]) fun p hp ht => ?_
    rw [hs] at hp
    cases hout with
    | putOff hem hdue hdef hpc =>
      exact hwait _ h.waiting (fun p hp => h.not_due (hfresh p hp)) p hp (hdue ▸ ht)
    | enter hem hv hdue hdef hpc =>
      refine hwait _ (fun p hp ht => ?_) (fun p hp ht => ?_) p hp (hdue ▸ ht)
      · obtain ⟨q, hq, he, hd⟩ := mem_dueLongPresses ht
        rwa [ButtonState.eq_of_token hp hq he.symm]
      · obtain ⟨q, hq, he, -⟩ := mem_dueLongPresses ht
        exact h.not_holds (hfresh p hp) ⟨q, hq, he⟩
    | emit hem hdue hdef hpc =>
      rw [hdue] at ht
      cases ht
  | fire hs hem hdue hdef hpc hn hu =>
    obtain ⟨hholds, hev⟩ := emitSelectedLongPresses_events s.state s.pc.due s.clock
    have hb := balanced_mids hholds (fun event h => (hev event h).1) fun event h => (hev event h).2.2.1
    have hu' : ([] ++ tokens s'.pending).Perm (tokens s.pending) := hu
    refine h.output hb (fun t ht => absurd ht List.not_mem_nil) hs (.emit hem hdue hdef fun h => absurd h hpc) hn hu'
      fun p hp ht => ?_
    rw [hdue] at ht
    cases ht

theorem known_init : Known {} where
  held := fun _ h => by simp [ButtonState.Holds] at h
  ended := fun _ h => absurd h List.not_mem_nil
  young := fun _ _ => ⟨rfl, List.not_mem_nil⟩
  unborn := fun _ h => absurd h List.not_mem_nil
  nodup := List.nodup_nil
  started := fun _ h => absurd h List.not_mem_nil
  waiting := fun _ h => absurd h (by simp)

end Button
end OpenLogi
