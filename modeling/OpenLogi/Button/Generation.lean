import OpenLogi.Button.Lifecycle
/-!
# Generation — what becomes of the inputs that the worker dequeues

The worker compares an input with its own copy of the generation.  The main loop refreshes the copy after it has taken
the input, so that only an invalidation in between can make a current input stale; the drain of a settle pass refreshes
it before.
-/
namespace OpenLogi
namespace Button

open Lib (run run_inv)

/-- The worker has a command in hand and has refreshed its generation since it took it. -/
def Pc.freshInHand : Pc → Bool
  | .synced _ => true
  | .settle first | .settleSync first | .settleDue first => first.isSome
  | _ => false

/-- What the worker did with a command is what `processCommand` does with the generation last read, which the main loop
reads between the dequeue and the comparison. -/
structure Handled.Sound (h : Handled) : Prop where
  out : ∀ out, h.out = some out → out = processCommand h.before h.command h.refreshed
  between : h.drained = false → h.dequeued ≤ h.refreshed ∧ h.refreshed ≤ h.compared

structure Current (s : Sys) : Prop where
  copy : s.generation = s.refreshed
  refreshed : s.refreshed ≤ s.sharedGeneration
  dequeued : s.dequeued ≤ s.sharedGeneration
  synced : s.pc.freshInHand = true → s.dequeued ≤ s.refreshed
  taken : s.taken = s.pc.hand ++ s.handled.map (·.command)
  handled : ∀ h ∈ s.handled, h.Sound
  dropped : ∀ h ∈ s.handled, h.out = none → h.drained = false ∧ s.shutdown = true ∧ s.pc = .exited

/-- What the worker's accounts of its commands rest on, besides the shared generation. -/
def Sys.accounts (s : Sys) : Nat × Nat × Nat × List ButtonCommand × List Handled :=
  (s.generation, s.refreshed, s.dequeued, s.taken, s.handled)

variable {s s' : Sys}

/-- Where a step is done with a command, the state is the one that `processCommand` returned, and its events are emitted
or put off. -/
def Sys.HandsOn (s s' : Sys) : Prop :=
  s'.handled = s.handled ∨ ∃ h, s'.handled = h :: s.handled ∧ h.before = s.state ∧ ∀ out, h.out = some out →
    s'.state = out.2 ∧ s'.emitted ++ s'.pc.deferred = s.emitted ++ s.pc.deferred ++ out.1

def Goes (s s' : Sys) : Prop := Current s' ∧ s.HandsOn s'

/-- A step that reads no generation; an invalidation may have raised the shared one. -/
theorem Current.still (h : Current s) (ha : s'.accounts = s.accounts) (hs : s.sharedGeneration ≤ s'.sharedGeneration)
    (hsd : s.shutdown = true → s'.shutdown = true) (hpc : s'.pc.freshInHand = true → s.pc.freshInHand = true)
    (hhand : s'.pc.hand = s.pc.hand) (hex : s.pc = .exited → s'.pc = .exited) : Goes s s' := by
  simp only [Sys.accounts, Prod.mk.injEq] at ha
  obtain ⟨hg, hr, hd, ht, hh⟩ := ha
  refine ⟨?_, Or.inl hh⟩
  constructor
  · rw [hg, hr]
    exact h.copy
  · rw [hr]
    exact h.refreshed.trans hs
  · rw [hd]
    exact h.dequeued.trans hs
  · rw [hd, hr]
    exact fun hsy => h.synced (hpc hsy)
  · rw [ht, hh, hhand]
    exact h.taken
  · rw [hh]
    exact h.handled
  · rw [hh]
    intro x hx hn
    obtain ⟨hdr, hdn, he⟩ := h.dropped x hx hn
    exact ⟨hdr, hsd hdn, hex he⟩

/-- A step that leaves the worker with no command that it has refreshed its generation for. -/
theorem Current.onward (h : Current s) (hex : s.pc ≠ .exited) (ha : s'.accounts = s.accounts)
    (hs : s'.sharedGeneration = s.sharedGeneration) (hsd : s'.shutdown = s.shutdown) (hpc : s'.pc.freshInHand = false)
    (hhand : s'.pc.hand = s.pc.hand) : Goes s s' :=
  h.still ha (Nat.le_of_eq hs.symm) (fun hd => hsd.trans hd) (fun hsy => by rw [hpc] at hsy; cases hsy) hhand
    fun he => absurd he hex

/-- The worker refreshes its copy of the generation. -/
theorem Current.refresh (h : Current s) {pc : Pc} (hhand : pc.hand = s.pc.hand) (hex : s.pc ≠ .exited)
    (state : ButtonState) (emitted : List ButtonRuntimeEvent) :
    Goes s { s.refresh with pc := pc, state := state, emitted := emitted } :=
  ⟨{copy := rfl
    refreshed := Nat.le_refl _
    dequeued := h.dequeued
    synced _ := h.dequeued
    taken := h.taken.trans (by rw [hhand]; rfl)
    handled := h.handled
    dropped x hx hn := absurd (h.dropped x hx hn).2.2 hex }, Or.inl rfl⟩

theorem Current.take (h : Current s) (hhand : s.pc.hand = []) (hex : s.pc ≠ .exited) (command : ButtonCommand)
    (queue : List ButtonCommand) :
    Current ((s.take command queue).goto (.received command)) where
  copy := h.copy
  refreshed := h.refreshed
  dequeued := Nat.le_refl _
  synced hsy := by cases hsy
  taken := by
    show command :: s.taken = _
    rw [h.taken, hhand]
    rfl
  handled := h.handled
  dropped x hx hn := absurd (h.dropped x hx hn).2.2 hex

/-- The worker is done with the command in hand. -/
theorem Current.record (h : Current s) (drained : Bool) {command : ButtonCommand}
    (out : Option (List ButtonRuntimeEvent × ButtonState)) (hhand : s.pc.hand = [command]) (hex : s.pc ≠ .exited)
    (hsync : drained = false → s.dequeued ≤ s.refreshed)
    (hout : ∀ o, out = some o → o = processCommand s.state command s.generation)
    (hdrop : out = none → drained = false ∧ s'.shutdown = true ∧ s'.pc = .exited)
    (ha : s'.accounts = (s.record drained [command] out).accounts) (hs : s'.sharedGeneration = s.sharedGeneration)
    (hpc : s'.pc.freshInHand = false) (hnone : s'.pc.hand = []) : Current s' := by
  simp only [Sys.accounts, Prod.mk.injEq] at ha
  obtain ⟨hg, hr, hd, ht, hh⟩ := ha
  have hhandled : s'.handled =
      ⟨drained, command, s.dequeued, s.refreshed, s.sharedGeneration, s.state, out⟩ :: s.handled := hh
  constructor
  · rw [hg, hr]
    exact h.copy
  · rw [hr, hs]
    exact h.refreshed
  · rw [hd, hs]
    exact h.dequeued
  · rw [hpc]
    exact fun hsy => by cases hsy
  · rw [ht, hhandled, hnone]
    exact h.taken.trans (by rw [hhand]; rfl)
  · rw [hhandled]
    intro x hx
    rcases List.mem_cons.1 hx with rfl | hx
    · exact ⟨fun o ho => h.copy ▸ hout o ho, fun hdr => ⟨hsync hdr, h.refreshed⟩⟩
    · exact h.handled x hx
  · rw [hhandled]
    intro x hx hn
    rcases List.mem_cons.1 hx with rfl | hx
    · exact hdrop hn
    · exact absurd (h.dropped x hx hn).2.2 hex

theorem Current.processed (h : Current s) (drained : Bool) {command : ButtonCommand} (hhand : s.pc.hand = [command])
    (hex : s.pc ≠ .exited) (hsync : drained = false → s.dequeued ≤ s.refreshed)
    (ha : s'.accounts = (s.record drained [command] (some (processCommand s.state command s.generation))).accounts)
    (hs : s'.sharedGeneration = s.sharedGeneration) (hpc : s'.pc.freshInHand = false) (hnone : s'.pc.hand = []) :
    Current s' :=
  h.record drained _ hhand hex hsync (fun _ ho => (Option.some.inj ho).symm) (fun hn => by cases hn) ha hs hpc hnone

theorem handsOn_processed {drained : Bool} {command : ButtonCommand} {dequeued refreshed compared : Nat}
    (hh : s'.handled = ⟨drained, command, dequeued, refreshed, compared, s.state,
      some (processCommand s.state command s.generation)⟩ :: s.handled)
    (hs : s'.state = (processCommand s.state command s.generation).2)
    (hev : s'.emitted ++ s'.pc.deferred =
      s.emitted ++ s.pc.deferred ++ (processCommand s.state command s.generation).1) : s.HandsOn s' := by
  refine Or.inr ⟨_, hh, rfl, fun out ho => ?_⟩
  obtain rfl := Option.some.inj ho
  exact ⟨hs, hev⟩

theorem Current.producer (h : Current s) (ha : s'.accounts = s.accounts) (hpc : s'.pc = s.pc)
    (hsd : s'.shutdown = s.shutdown) (hs : s.sharedGeneration ≤ s'.sharedGeneration) : Goes s s' :=
  h.still ha hs (fun hd => hsd.trans hd) (fun hsy => hpc ▸ hsy) (by rw [hpc]) fun he => hpc.trans he

theorem Current.self (h : Current s) : Goes s s :=
  h.producer rfl rfl rfl (Nat.le_refl _)

theorem Current.prepare (h : Current s) (command : ButtonCommand) : Goes s (s.prepare command) :=
  h.producer rfl rfl rfl (Nat.le_refl _)

theorem Current.call (h : Current s) (call : Call) : Goes s (s.call call) := by
  have hnext : Goes s { s with nextPress := s.nextPress + 1 } := h.producer rfl rfl rfl (Nat.le_refl _)
  cases call with
  | down key binding target now => exact hnext.1.prepare _
  | up key now => exact h.prepare _
  | pulse key binding target now => exact hnext.1.prepare _
  | triggerWhilePressed token action =>
    simp only [Sys.call]
    split
    · exact h.prepare _
    · exact h.self
  | wheelWhilePressed token =>
    simp only [Sys.call]
    split
    · exact h.prepare _
    · exact h.self
  | cancel command => cases command <;> first | exact h.self | exact h.prepare _

theorem Current.invalidateAll (h : Current s) : Goes s s.invalidateAll :=
  h.producer rfl rfl rfl (Nat.le_succ _)

theorem Current.trySend (h : Current s) (command : ButtonCommand) : Goes s (s.trySend command) := by
  have hqueue : Goes s { s with queue := s.queue ++ [command] } := h.producer rfl rfl rfl (Nat.le_refl _)
  have htry : Goes s (s.tryCommand command) := by
    unfold Sys.tryCommand
    split
    · exact hqueue
    · exact h.invalidateAll
  cases command with
  | input stamp input =>
    simp only [Sys.trySend]
    split
    · exact htry
    · exact h.self
  | wake =>
    simp only [Sys.trySend]
    split
    · exact hqueue
    · exact h.self
  | _ => exact htry

theorem Current.workPass (h : Current s) {stage : Stage} {due : List PressToken} {deferred : List ButtonRuntimeEvent}
    {limit : Nat} (hat : s.pc = .pass stage due deferred limit) :
    Goes s (s.workPass stage due deferred limit) := by
  have hhand : s.pc.hand = [] := by rw [hat]; rfl
  have hex : s.pc ≠ .exited := fun he => by rw [hat] at he; cases he
  cases stage with
  | processed =>
    simp only [Sys.workPass]
    split <;> exact h.onward hex rfl rfl rfl rfl hhand.symm
  | checked => exact h.refresh (by rw [hat]; rfl) hex _ _
  | drain =>
    simp only [Sys.workPass]
    split
    · exact h.onward hex rfl rfl rfl rfl hhand.symm
    · split <;> exact h.onward hex rfl rfl rfl rfl hhand.symm
  | sync => exact h.refresh (by rw [hat]; rfl) hex _ _
  | recv =>
    simp only [Sys.workPass]
    split
    · split <;> exact h.onward hex rfl rfl rfl rfl hhand.symm
    · rename_i command queue hq
      -- the drain compares the command with the copy that it refreshed before
      exact ⟨(h.take hhand hex command queue).processed true rfl (fun he => by cases he) (fun hd => by cases hd)
        rfl rfl rfl rfl, handsOn_processed rfl rfl (by rw [hat, List.append_assoc]; rfl)⟩
  | fire => exact h.onward hex rfl rfl rfl rfl hhand.symm

theorem Current.workSettleDue (h : Current s) {first : Option ButtonCommand} (hpc : s.pc = .settleDue first) :
    Goes s (s.workSettleDue first) := by
  have hex : s.pc ≠ .exited := fun he => by rw [hpc] at he; cases he
  unfold Sys.workSettleDue
  cases first with
  | none =>
    have hhand : s.pc.hand = [] := by rw [hpc]; rfl
    dsimp only
    split <;> exact h.onward hex rfl rfl rfl rfl hhand.symm
  | some command =>
    have hsync : false = false → s.dequeued ≤ s.refreshed := fun _ => h.synced (by rw [hpc]; rfl)
    have hhand : s.pc.hand = [command] := by rw [hpc]; rfl
    have hdef : s.pc.deferred = [] := by rw [hpc]; rfl
    dsimp only
    split
    · exact ⟨h.processed false hhand hex hsync rfl rfl rfl rfl,
        handsOn_processed rfl rfl (by rw [hdef, List.append_nil]; exact List.append_nil _)⟩
    · exact ⟨h.processed false hhand hex hsync rfl rfl rfl rfl,
        handsOn_processed rfl rfl (by rw [hdef, List.append_nil]; rfl)⟩

theorem Current.work (h : Current s) (hw : s.work = some s') : Goes s s' := by
  have hex : s.pc ≠ .exited := fun he => by rw [Sys.work, he] at hw; cases hw
  unfold Sys.work at hw
  split at hw
  · rename_i hpc
    cases hw
    exact h.refresh (by rw [hpc]; rfl) hex _ _
  · rename_i hpc
    cases hw
    split <;> exact h.onward hex rfl rfl rfl rfl (by rw [hpc]; rfl)
  · rename_i hpc
    split at hw
    · split at hw
      · cases hw
        exact h.onward hex rfl rfl rfl rfl (by rw [hpc]; rfl)
      · cases hw
    · cases hw
      exact ⟨h.take (by rw [hpc]; rfl) hex _ _, Or.inl rfl⟩
  · rename_i command hpc
    cases hw
    exact h.refresh (by rw [hpc]; rfl) hex _ _
  · rename_i command hpc
    cases hw
    split
    · exact h.still rfl (Nat.le_refl _) id (fun _ => by rw [hpc]; rfl) (by rw [hpc]; rfl) fun he => absurd he hex
    · refine ⟨h.processed false (by rw [hpc]; rfl) hex (fun _ => h.synced (by rw [hpc]; rfl)) rfl rfl rfl rfl,
        handsOn_processed rfl rfl ?_⟩
      rw [show s.pc.deferred = [] by rw [hpc]; rfl, List.append_nil]
      exact List.append_nil _
  · rename_i first hpc
    cases hw
    split
    · rename_i hsd
      cases first with
      | none => exact h.onward hex rfl rfl rfl rfl (by rw [hpc]; rfl)
      | some command =>
        -- the command in hand is dropped
        exact ⟨h.record false none (by rw [hpc]; rfl) hex (fun _ => h.synced (by rw [hpc]; rfl))
          (fun o ho => by cases ho) (fun _ => ⟨rfl, hsd, rfl⟩) rfl rfl rfl rfl,
          Or.inr ⟨_, rfl, rfl, fun _ ho => by cases ho⟩⟩
    · exact h.still rfl (Nat.le_refl _) id (fun hsy => by rw [hpc]; exact hsy) (by rw [hpc]; rfl)
        fun he => absurd he hex
  · rename_i first hpc
    cases hw
    exact h.refresh (by rw [hpc]; rfl) hex _ _
  · rename_i first hpc
    cases hw
    exact h.workSettleDue hpc
  · rename_i stage due deferred limit hpc
    cases hw
    exact h.workPass hpc
  · cases hw

theorem Current.step {e : Ev} (h : Current s) (hs : step s e = some s') : Goes s s' := by
  cases e with
  | tick elapsed =>
    cases hs
    exact h.producer rfl rfl rfl (Nat.le_refl _)
  | call call =>
    simp only [Button.step] at hs
    split at hs
    · cases hs
    · cases hs
      exact h.call call
  | send index =>
    simp only [Button.step] at hs
    split at hs
    · cases hs
    · rename_i command hc
      have hcalls : Goes s { s with calls := s.calls.eraseIdx index } := h.producer rfl rfl rfl (Nat.le_refl _)
      split at hs
      · cases hs
        exact hcalls
      · cases hs
        exact hcalls.1.trySend command
  | invalidate =>
    simp only [Button.step] at hs
    split at hs
    · cases hs
    · cases hs
      exact h.invalidateAll
  | stopAccepting =>
    cases hs
    exact h.producer rfl rfl rfl (Nat.le_refl _)
  | requestShutdown =>
    cases hs
    exact h.still rfl (Nat.le_refl _) (fun _ => rfl) id rfl id
  | disconnect =>
    simp only [Button.step] at hs
    split at hs
    · cases hs
      exact h.producer rfl rfl rfl (Nat.le_refl _)
    · cases hs
  | rehash rows =>
    simp only [Button.step] at hs
    split at hs
    · cases hs
      exact h.producer rfl rfl rfl (Nat.le_refl _)
    · cases hs
  | timeout =>
    simp only [Button.step] at hs
    split at hs
    · rename_i hpc
      split at hs
      · cases hs
        exact h.onward (fun he => by rw [hpc] at he; cases he) rfl rfl rfl rfl (by rw [hpc]; rfl)
      · cases hs
    · cases hs
  | work => exact h.work hs

theorem current_run {events : List Ev} (hr : run step {} events = some s) : Current s :=
  run_inv Current (fun _ _ _ h hs => (h.step hs).1) events {} s
    ⟨rfl, Nat.le_refl _, Nat.le_refl _, (fun h => by cases h), rfl, fun _ h => absurd h List.not_mem_nil,
      fun _ h => absurd h List.not_mem_nil⟩ hr

/-- **Every command dequeued is accounted for, and a current input is processed**: as `processInput` does when no
invalidation has landed between its dequeue and the worker's last refresh; in the main loop, where the refresh comes
after the dequeue, ignored when one has, and certainly processed when none lands before the comparison.  Only a
shutdown that finds the input in hand drops it.  What is recorded is what the worker hands on. -/
theorem current_input_processed (events : List Ev) (s : Sys) (hr : run step {} events = some s) :
    s.taken = s.pc.hand ++ s.handled.map (·.command) ∧
    (∀ e s', step s e = some s' → s.HandsOn s') ∧
    ∀ h ∈ s.handled, ∀ input, h.command = .input h.dequeued input →
      (h.out = none → h.drained = false ∧ s.shutdown = true ∧ s.pc = .exited) ∧
      ∀ out, h.out = some out →
        (h.refreshed = h.dequeued → out = processInput h.before input) ∧
        (h.drained = false → (h.refreshed ≠ h.dequeued → out = ([], h.before)) ∧
          (h.compared = h.dequeued → out = processInput h.before input)) := by
  have hs := current_run hr
  refine ⟨hs.taken, fun _ _ hstep => (hs.step hstep).2, fun h hh input hi => ⟨hs.dropped h hh, fun out ho => ?_⟩⟩
  obtain ⟨hout, hbetween⟩ := hs.handled h hh
  have hcompare : out = if h.dequeued = h.refreshed then processInput h.before input else ([], h.before) := by
    rw [hout out ho, hi]
    rfl
  have hprocessed : h.refreshed = h.dequeued → out = processInput h.before input := fun he => by
    rw [hcompare, if_pos he.symm]
  refine ⟨hprocessed, fun hd => ⟨fun hne => ?_, fun hc => hprocessed ?_⟩⟩
  · rw [hcompare, if_neg (Ne.symm hne)]
  · obtain ⟨hle, hle'⟩ := hbetween hd
    omega

/-! ## Around an invalidation -/

/-- The worker takes a press from its queue in the main loop; `meanwhile` comes before its next steps. -/
def takenWith (meanwhile : List Ev) : List Ev :=
  [.work, .work, .call (.down backKey none .keyboard 0), .send 0, .work] ++ meanwhile ++ [.work, .work]

/-- A settle pass has refreshed its generation; then an invalidation lands, and a new press gets ahead of its wake. -/
def drainedAfter : List Ev :=
  [.work, .work, .call (.down backKey (some (.longPress .copy .paste)) .keyboard 0), .send 0] ++
    List.replicate 7 .work ++ [.tick 500000000, .timeout] ++ List.replicate 5 .work ++
    [.invalidate, .call (.down backKey none .keyboard 500000000), .send 1, .work]

/-- A press is in hand when a long press is due; the settle pass finds a shutdown requested. -/
def droppedByShutdown : List Ev :=
  [.work, .work, .call (.down backKey (some (.longPress .copy .paste)) .keyboard 0), .send 0] ++
    List.replicate 7 .work ++ [.tick 500000000, .call (.down backKey none .keyboard 500000000), .send 0, .work,
      .requestShutdown, .work, .work, .work]

/-- The press that is sent at `now` with no binding, as the `id`th, in `generation`. -/
def pressOf (id generation now : Nat) : ActivePress := ⟨⟨id, backKey, generation⟩, .new none now, .keyboard⟩

theorem started_mem (s : ButtonState) (press : ActivePress) : .started press ∈ (processInput s (.down press)).1 :=
  List.mem_append_right _ (List.mem_singleton.2 rfl)

theorem taken_input_processed : ∃ s, run step {} (takenWith []) = some s ∧
    s.taken = [.input 0 (.down (pressOf 1 0 0))] ∧
    ∃ h ∈ s.handled, h.command = .input h.dequeued (.down (pressOf 1 0 0)) ∧
      h.out = some (processInput h.before (.down (pressOf 1 0 0))) ∧
      .started (pressOf 1 0 0) ∈ (processInput h.before (.down (pressOf 1 0 0))).1 := by
  have hrun : ∃ state out, (run step {} (takenWith [])).map (fun s => (s.pc.hand, s.handled)) =
      some ([], [⟨false, .input 0 (.down (pressOf 1 0 0)), 0, 0, 0, state, some out⟩]) := ⟨_, _, rfl⟩
  obtain ⟨state, out, hrun⟩ := hrun
  obtain ⟨s, hs, hh⟩ := Option.map_eq_some_iff.1 hrun
  obtain ⟨hhand, hhandled⟩ := Prod.mk.inj hh
  obtain ⟨htaken, -, hsound⟩ := current_input_processed _ s hs
  refine ⟨s, hs, ?_, _, by rw [hhandled]; exact List.mem_singleton.2 rfl, rfl, ?_, started_mem _ _⟩
  · rw [htaken, hhand, hhandled]
    rfl
  · have h := (hsound _ (by rw [hhandled]; exact List.mem_singleton.2 rfl) (.down (pressOf 1 0 0)) rfl).2 out rfl
    rw [h.1 rfl]

/-- An input that is current when it is dequeued is ignored in the main loop when an invalidation lands before the
refresh, and in the drain when one has landed since the refresh; a shutdown drops one in hand. -/
theorem current_input_ignored :
    (∃ s, run step {} (takenWith [.invalidate]) = some s ∧ ∃ h ∈ s.handled, h.drained = false ∧
      h.command = .input h.dequeued (.down (pressOf 1 0 0)) ∧ h.out = some ([], h.before) ∧
      h.out ≠ some (processInput h.before (.down (pressOf 1 0 0)))) ∧
    (∃ s, run step {} drainedAfter = some s ∧ ∃ h ∈ s.handled, h.drained = true ∧
      h.command = .input h.dequeued (.down (pressOf 2 1 500000000)) ∧ h.out = some ([], h.before) ∧
      h.out ≠ some (processInput h.before (.down (pressOf 2 1 500000000)))) ∧
    ∃ s, run step {} droppedByShutdown = some s ∧ ∃ h ∈ s.handled, h.drained = false ∧
      h.command = .input h.dequeued (.down (pressOf 2 0 500000000)) ∧ h.refreshed = h.dequeued ∧ h.out = none := by
  have hignored : ∀ (state : ButtonState) (press : ActivePress),
      some ([], state) ≠ some (processInput state (.down press)) := fun state press he => by
    have hmem := started_mem state press
    rw [← Option.some.inj he] at hmem
    cases hmem
  have hmain : ∃ state rest, (run step {} (takenWith [.invalidate])).map (·.handled) =
      some (⟨false, .input 0 (.down (pressOf 1 0 0)), 0, 1, 1, state, some ([], state)⟩ :: rest) := ⟨_, _, rfl⟩
  have hdrain : ∃ state rest, (run step {} drainedAfter).map (·.handled) =
      some (⟨true, .input 1 (.down (pressOf 2 1 500000000)), 1, 0, 1, state, some ([], state)⟩ :: rest) := ⟨_, _, rfl⟩
  have hdrop : ∃ state rest, (run step {} droppedByShutdown).map (·.handled) =
      some (⟨false, .input 0 (.down (pressOf 2 0 500000000)), 0, 0, 0, state, none⟩ :: rest) := ⟨_, _, rfl⟩
  obtain ⟨state, rest, hmain⟩ := hmain
  obtain ⟨s, hs, hh⟩ := Option.map_eq_some_iff.1 hmain
  obtain ⟨state', rest', hdrain⟩ := hdrain
  obtain ⟨s', hs', hh'⟩ := Option.map_eq_some_iff.1 hdrain
  obtain ⟨_, _, hdrop⟩ := hdrop
  obtain ⟨t, ht, hh''⟩ := Option.map_eq_some_iff.1 hdrop
  exact ⟨⟨s, hs, _, by rw [hh]; exact List.mem_cons_self, rfl, rfl, rfl, hignored _ _⟩,
    ⟨s', hs', _, by rw [hh']; exact List.mem_cons_self, rfl, rfl, rfl, hignored _ _⟩,
    t, ht, _, by rw [hh'']; exact List.mem_cons_self, rfl, rfl, rfl, rfl⟩

end Button
end OpenLogi
