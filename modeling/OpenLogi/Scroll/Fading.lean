import OpenLogi.Lib.Fifo
import OpenLogi.Scroll.Rejection
/-!
# Fading — a session whose cancellation has begun

The invariant of the scroll system, and the producers' steps, which keep it.  A session fades once its cancellation is
handled: what is left of its input stays rejected, and nothing of it is left to move.
-/
namespace OpenLogi
namespace Scroll

open Button (HidppSessionId)
open Lib (Ahead)

variable {F : Type} [F64 F] {s s' : ScrollSystem F} {session : HidppSessionId}

/-! ## The invariant -/

def Received.command? : Received F → Option (ScrollCommand F)
  | .command c => some c
  | .timeout | .disconnected => none

namespace ScrollSystem

/-- The commands not handled yet: the one in hand, if any, and the queue. -/
def pending (s : ScrollSystem F) : List (ScrollCommand F) :=
  (s.phase.inHand.bind Received.command?).toList ++ s.commands

/-- Every pending input of a session stays rejected. -/
def InputsSpent (session : HidppSessionId) (s : ScrollSystem F) : Prop :=
  ∀ input, .input input ∈ s.pending → input.source.inSession session = true →
    Spent session s.worker.cancellations input

/-- No output of the session follows. -/
inductive Fading (session : HidppSessionId) (s : ScrollSystem F) : Prop where
  | stopped (h : s.isStopped = true)
  /-- Nothing of the session moves or is left to be accepted. -/
  | dead (rows : s.worker.engine.Rows (NotOf session)) (spent : s.InputsSpent session)
  /-- The controls are being drained, and the session's is among them. -/
  | drained (generation : Nat) (h : .cancelOverflowSession session generation ∈ s.controls)
      (hphase : s.phase = .draining)
  /-- The queue is not empty, so no frame comes due, until the session's command is handled. -/
  | queued (h : .cancelSession session ∈ s.pending) (spent : s.InputsSpent session)
      (hhand : s.phase.inHand ≠ some .timeout)

def IsControl (session : HidppSessionId) (control : ScrollControl) : Prop :=
  ∃ generation, control = .cancelOverflowSession session generation

/-- A delivered cancellation was handled, or waits in a queue ahead of every `q` or `k`. -/
def Owed (q : ScrollCommand F → Prop) (k : ScrollControl → Prop) (session : HidppSessionId) (s : ScrollSystem F) :
    Prop :=
  s.isStopped = true ∨ session ∈ s.handled ∨ Ahead (fun c => c = .cancelSession session) q s.pending ∨
    Ahead (IsControl session) k s.controls

structure Inv (s : ScrollSystem F) : Prop where
  entered : s.worker.cancellations.generation ≤ s.generation
  prepared : ∀ input ∈ s.preparing, input.generation ≤ s.generation
  queued : ∀ input, .input input ∈ s.pending → input.generation ≤ s.generation
  bound : ∀ session b, s.began session = some b → b.generation ≤ s.generation
  inputs : ∀ session b, s.began session = some b → ∀ input, .input input ∈ s.pending →
    input.source.inSession session = true → input.generation ≤ b.generation
  rows : ∀ session b, s.began session = some b → b.generation < s.worker.cancellations.generation →
    s.worker.engine.Rows (NotOf session)
  calls : ∀ call ∈ s.cancelling, ∃ b, s.began call.session = some b ∧ b.generation ≤ call.generation ∧
    call.generation ≤ s.generation
  controls : ∀ session generation, .cancelOverflowSession session generation ∈ s.controls →
    ∃ b, s.began session = some b ∧ b.generation ≤ generation ∧ generation ≤ s.generation
  cancels : ∀ session, .cancelSession session ∈ s.pending → (s.began session).isSome = true
  /-- No input of a session is queued behind its cancellation. -/
  fifo : s.pending.Pairwise fun c d =>
    ∀ session input, c = .cancelSession session → d = .input input → NotOf session input.source
  watermark : ∀ key epoch, s.worker.cancellations.sessions key = some epoch → (s.began ⟨key, epoch⟩).isSome = true
  delivered : ∀ session ∈ s.delivered, (s.began session).isSome = true ∧
    s.Owed (fun _ => False) (fun _ => False) session
  earlier : ∀ session b, s.began session = some b → ∀ older ∈ b.earlier,
    (∃ bo, s.began older = some bo ∧ bo.generation ≤ b.generation) ∧
      s.Owed (fun c => c = .cancelSession session) (IsControl session) older
  handled : ∀ session ∈ s.handled, s.Fading session ∧ ∃ b, s.began session = some b ∧ ∀ older ∈ b.earlier,
    older.deviceKey = session.deviceKey → older.epoch ≤ session.epoch → s.Fading older

theorem inv_init (smoothing : Bool) : (init smoothing : ScrollSystem F).Inv where
  entered := Nat.le_refl 0
  prepared := by simp [init]
  queued := by simp [init, pending, WorkerPhase.inHand]
  bound := by simp [init]
  inputs := by simp [init]
  rows := by simp [init]
  calls := by simp [init]
  controls := by simp [init]
  cancels := by simp [init, pending, WorkerPhase.inHand]
  fifo := by simp [init, pending, WorkerPhase.inHand]
  watermark := by simp [init]
  delivered := by simp [init]
  earlier := by simp [init]
  handled := by simp [init]

/-! ## Producers -/

/-- What a step of a producer does: the queues grow, and the worker stands where it stood. -/
structure Produced (s s' : ScrollSystem F) : Prop where
  worker : s'.worker = s.worker
  phase : s'.phase = s.phase
  handled : s'.handled = s.handled
  generation : s.generation ≤ s'.generation
  began : ∀ session b, s.began session = some b → s'.began session = some b
  fresh : ∀ session b, s'.began session = some b →
    s.began session = some b ∨ s.began session = none ∧ b = ⟨s.generation, s.delivered⟩
  commands : ∃ cs, s'.commands = s.commands ++ cs ∧ cs.length ≤ 1 ∧
    (∀ input, .input input ∈ cs → input.generation ≤ s.generation ∧ ∀ session,
      input.source.inSession session = true → s'.began session = none) ∧
    ∀ session, .cancelSession session ∈ cs → (s'.began session).isSome = true
  controls : ∃ ks, s'.controls = s.controls ++ ks ∧ ∀ session generation,
    .cancelOverflowSession session generation ∈ ks →
      ∃ b, s'.began session = some b ∧ b.generation ≤ generation ∧ generation ≤ s'.generation
  prepared : ∀ input ∈ s'.preparing, input.generation ≤ s'.generation
  calls : ∀ call ∈ s'.cancelling, ∃ b, s'.began call.session = some b ∧ b.generation ≤ call.generation ∧
    call.generation ≤ s'.generation
  delivered : ∀ session ∈ s'.delivered, session ∈ s.delivered ∨ (s'.began session).isSome = true ∧
    (s'.isStopped = true ∨ .cancelSession session ∈ s'.commands ∨
      ∃ generation, .cancelOverflowSession session generation ∈ s'.controls)

theorem Produced.isStopped (h : Produced s s') : s'.isStopped = s.isStopped := by
  unfold ScrollSystem.isStopped
  rw [h.phase]

theorem Produced.pending (h : Produced s s') {cs : List (ScrollCommand F)} (hcs : s'.commands = s.commands ++ cs) :
    s'.pending = s.pending ++ cs := by
  unfold ScrollSystem.pending
  rw [h.phase, hcs, List.append_assoc]

theorem Produced.owed (h : Produced s s') {q : ScrollCommand F → Prop} {k : ScrollControl → Prop}
    (hs : s.Owed q k session) : s'.Owed q k session := by
  obtain ⟨cs, hcs, -⟩ := h.commands
  obtain ⟨ks, hks, -⟩ := h.controls
  rcases hs with hs | hs | hs | hs
  · exact .inl (h.isStopped.trans hs)
  · exact .inr (.inl (h.handled ▸ hs))
  · refine .inr (.inr (.inl ?_))
    rw [h.pending hcs]
    exact hs.append cs
  · refine .inr (.inr (.inr ?_))
    rw [hks]
    exact hs.append ks

theorem Produced.fading (h : Produced s s') (hbegan : (s.began session).isSome = true) (hs : s.Fading session) :
    s'.Fading session := by
  obtain ⟨cs, hcs, -, hinputs, -⟩ := h.commands
  obtain ⟨ks, hks, -⟩ := h.controls
  have hpending := h.pending hcs
  have hspent : s.InputsSpent session → s'.InputsSpent session := by
    intro hs input hinput hin
    rw [h.worker]
    rw [hpending] at hinput
    rcases List.mem_append.1 hinput with hinput | hinput
    · exact hs input hinput hin
    · obtain ⟨b, hb⟩ := Option.isSome_iff_exists.1 hbegan
      have hnone := (hinputs input hinput).2 session hin
      rw [h.began session b hb] at hnone
      cases hnone
  rcases hs with hs | ⟨hrows, hs⟩ | ⟨generation, hs, hphase⟩ | ⟨hs, hspent', hhand⟩
  · exact .stopped (h.isStopped.trans hs)
  · exact .dead (h.worker ▸ hrows) (hspent hs)
  · refine .drained generation ?_ (h.phase.trans hphase)
    rw [hks]
    exact List.mem_append_left ks hs
  · refine .queued ?_ (hspent hspent') (h.phase ▸ hhand)
    rw [hpending]
    exact List.mem_append_left cs hs

theorem mem_commands {c : ScrollCommand F} (h : c ∈ s.commands) : c ∈ s.pending := List.mem_append_right _ h

/-- A cancellation delivered and not handled is ahead of that of a session whose cancellation has not begun. -/
theorem Inv.owed_of_fresh (hi : s.Inv) {older : HidppSessionId} (hd : older ∈ s.delivered)
    (hfresh : s.began session = none) :
    s.Owed (fun c => c = .cancelSession session) (IsControl session) older := by
  rcases (hi.delivered older hd).2 with hs | hs | hs | hs
  · exact .inl hs
  · exact .inr (.inl hs)
  · obtain ⟨c, hc, hcancels⟩ := hs.exists
    refine .inr (.inr (.inl (Lib.ahead_of_mem hc hcancels fun d hd hsession => ?_)))
    have hbegan := hi.cancels session (hsession ▸ hd)
    rw [hfresh] at hbegan
    cases hbegan
  · obtain ⟨c, hc, hcancels⟩ := hs.exists
    refine .inr (.inr (.inr (Lib.ahead_of_mem hc hcancels fun d hd hsession => ?_)))
    obtain ⟨generation, rfl⟩ := hsession
    obtain ⟨b, hb, -⟩ := hi.controls session generation hd
    rw [hfresh] at hb
    cases hb

/-- **A producer's step keeps the invariant.** -/
theorem Inv.produced (hi : s.Inv) (h : Produced s s') : s'.Inv := by
  obtain ⟨cs, hcs, hone, hinputs, hcancels⟩ := h.commands
  obtain ⟨ks, hks, hcontrols⟩ := h.controls
  have hpending := h.pending hcs
  have hsome : ∀ session, (s.began session).isSome = true → (s'.began session).isSome = true := by
    intro session hsome
    obtain ⟨b, hb⟩ := Option.isSome_iff_exists.1 hsome
    rw [h.began session b hb]
    rfl
  refine
    { entered := ?_
      prepared := h.prepared
      queued := ?_
      bound := ?_
      inputs := ?_
      rows := ?_
      calls := h.calls
      controls := ?_
      cancels := ?_
      fifo := ?_
      watermark := ?_
      delivered := ?_
      earlier := ?_
      handled := ?_ }
  · rw [h.worker]
    exact hi.entered.trans h.generation
  · intro input hinput
    rw [hpending] at hinput
    rcases List.mem_append.1 hinput with hinput | hinput
    · exact (hi.queued input hinput).trans h.generation
    · exact (hinputs input hinput).1.trans h.generation
  · intro session b hb
    rcases h.fresh session b hb with hb | ⟨-, rfl⟩
    · exact (hi.bound session b hb).trans h.generation
    · exact h.generation
  · intro session b hb input hinput hin
    rw [hpending] at hinput
    rcases List.mem_append.1 hinput with hinput | hinput
    · rcases h.fresh session b hb with hb | ⟨-, rfl⟩
      · exact hi.inputs session b hb input hinput hin
      · exact hi.queued input hinput
    · rw [(hinputs input hinput).2 session hin] at hb
      cases hb
  · intro session b hb hlt
    rw [h.worker] at hlt ⊢
    rcases h.fresh session b hb with hb | ⟨-, rfl⟩
    · exact hi.rows session b hb hlt
    · exact absurd hi.entered (Nat.not_le.2 hlt)
  · intro session generation hcontrol
    rw [hks] at hcontrol
    rcases List.mem_append.1 hcontrol with hcontrol | hcontrol
    · obtain ⟨b, hb, hle, hle'⟩ := hi.controls session generation hcontrol
      exact ⟨b, h.began session b hb, hle, hle'.trans h.generation⟩
    · exact hcontrols session generation hcontrol
  · intro session hcancel
    rw [hpending] at hcancel
    rcases List.mem_append.1 hcancel with hcancel | hcancel
    · exact hsome session (hi.cancels session hcancel)
    · exact hcancels session hcancel
  · rw [hpending]
    refine List.pairwise_append.2 ⟨hi.fifo, ?_, ?_⟩
    · match cs, hone with
      | [], _ => exact .nil
      | [c], _ => exact List.pairwise_singleton _ c
    · rintro c hc d hd session input rfl rfl
      rw [NotOf, ← Bool.not_eq_true]
      intro hin
      have hbegan := hsome session (hi.cancels session hc)
      rw [(hinputs input hd).2 session hin] at hbegan
      cases hbegan
  · intro key epoch hwatermark
    rw [h.worker] at hwatermark
    exact hsome _ (hi.watermark key epoch hwatermark)
  · intro session hd
    rcases h.delivered session hd with hd | ⟨hbegan, hd⟩
    · exact ⟨hsome session (hi.delivered session hd).1, h.owed (hi.delivered session hd).2⟩
    · refine ⟨hbegan, ?_⟩
      rcases hd with hd | hd | ⟨generation, hd⟩
      · exact .inl hd
      · exact .inr (.inr (.inl (Lib.ahead_of_mem (mem_commands hd) rfl fun _ _ => id)))
      · exact .inr (.inr (.inr (Lib.ahead_of_mem hd ⟨generation, rfl⟩ fun _ _ => id)))
  · intro session b hb older hold
    rcases h.fresh session b hb with hb | ⟨hnone, rfl⟩
    · obtain ⟨⟨bo, hbo, hle⟩, howed⟩ := hi.earlier session b hb older hold
      exact ⟨⟨bo, h.began older bo hbo, hle⟩, h.owed howed⟩
    · obtain ⟨bo, hbo⟩ := Option.isSome_iff_exists.1 (hi.delivered older hold).1
      exact ⟨⟨bo, h.began older bo hbo, hi.bound older bo hbo⟩, h.owed (hi.owed_of_fresh hold hnone)⟩
  · intro session hh
    rw [h.handled] at hh
    obtain ⟨hfading, b, hb, holder⟩ := hi.handled session hh
    refine ⟨h.fading (by rw [hb]; rfl) hfading, b, h.began session b hb, fun older hold hkey hepoch => ?_⟩
    obtain ⟨⟨bo, hbo, -⟩, -⟩ := hi.earlier session b hb older hold
    exact h.fading (by rw [hbo]; rfl) (holder older hold hkey hepoch)

/-- A step of a producer that leaves the worker's side as it is. -/
theorem Inv.refl_produced (hi : s.Inv) : Produced s s where
  worker := rfl
  phase := rfl
  handled := rfl
  generation := Nat.le_refl _
  began := fun _ _ h => h
  fresh := fun _ _ h => .inl h
  commands := ⟨[], by simp, by simp, by simp, by simp⟩
  controls := ⟨[], by simp, by simp⟩
  prepared := hi.prepared
  calls := hi.calls
  delivered := fun _ h => .inl h

theorem Inv.prepare (hi : s.Inv) (source : ScrollSource) (impulse : WheelDelta F) (output : ScrollOutputMode F) :
    Produced s { s with preparing := s.preparing ++ [⟨s.generation, source, impulse, output⟩] } := by
  refine { hi.refl_produced with prepared := fun input hinput => ?_ }
  rcases List.mem_append.1 hinput with hinput | hinput
  · exact hi.prepared input hinput
  · rw [List.mem_singleton.1 hinput]

theorem Inv.bump (hi : s.Inv) : Produced s { s with generation := s.generation + 1 } :=
  { hi.refl_produced with
    generation := Nat.le_succ _
    controls := ⟨[], by simp, by simp⟩
    prepared := fun input hinput => (hi.prepared input hinput).trans (Nat.le_succ _)
    calls := fun call hcall => by
      obtain ⟨b, hb, hle, hle'⟩ := hi.calls call hcall
      exact ⟨b, hb, hle, hle'.trans (Nat.le_succ _)⟩ }

theorem Inv.erasePrepared (hi : s.Inv) (i : Nat) :
    Produced s { s with preparing := s.preparing.eraseIdx i } :=
  { hi.refl_produced with prepared := fun input h => hi.prepared input (List.mem_of_mem_eraseIdx h) }

/-- A command that is sent: an input of no session whose cancellation has begun, or a wake. -/
theorem Inv.trySend (hi : s.Inv) {command : ScrollCommand F} (hcancel : ∀ session, command ≠ .cancelSession session)
    (hinput : ∀ input, command = .input input → input.generation ≤ s.generation ∧ s.mayQueue input.source = true) :
    Produced s (s.trySend command) := by
  unfold ScrollSystem.trySend
  split
  · exact hi.refl_produced
  · refine { hi.refl_produced with
      commands := ⟨[command], rfl, Nat.le_refl 1, fun input h => ?_, fun session h => ?_⟩
      delivered := fun _ h => .inl h }
    · obtain ⟨hle, hmay⟩ := hinput input (List.mem_singleton.1 h).symm
      refine ⟨hle, fun session hin => ?_⟩
      cases hsource : input.source with
      | osHook thread => rw [hsource] at hin; cases hin
      | hidpp own wheel =>
        rw [hsource] at hin hmay
        obtain rfl : own = session := by simpa [ScrollSource.inSession] using hin
        exact Option.isNone_iff_eq_none.1 hmay
    · exact absurd (List.mem_singleton.1 h).symm (hcancel session)

variable {i : Nat} {call : CancelCall}

theorem Inv.send (hi : s.Inv) {input : ScrollInput F} (hget : s.preparing[i]? = some input)
    (hmay : s.mayQueue input.source = true) :
    Produced s ({ s with preparing := s.preparing.eraseIdx i }.trySend (.input input)) := by
  have hle := hi.prepared input (List.mem_of_getElem? hget)
  have hqueued : ∀ other, ScrollCommand.input input = .input other →
      other.generation ≤ s.generation ∧ s.mayQueue other.source = true := by
    rintro _ ⟨⟩
    exact ⟨hle, hmay⟩
  exact { (hi.produced (hi.erasePrepared i)).trySend (by simp) hqueued with }

theorem Inv.sendControl (hi : s.Inv) {control : ScrollControl}
    (hcontrol : ∀ session generation, control = .cancelOverflowSession session generation →
      ∃ b, s.began session = some b ∧ b.generation ≤ generation ∧ generation ≤ s.generation) :
    Produced s (s.sendControl control) := by
  unfold ScrollSystem.sendControl
  split
  · exact hi.refl_produced
  · refine { hi.refl_produced with
      controls := ⟨[control], rfl, fun session generation h => ?_⟩
      delivered := fun _ h => .inl h }
    exact hcontrol session generation (List.mem_singleton.1 h).symm

theorem Inv.cancelBegin (hi : s.Inv) (session : HidppSessionId) : Produced s { s with
    cancelling := s.cancelling ++ [⟨session, s.generation, false⟩]
    began := Function.update s.began session (some ((s.began session).getD ⟨s.generation, s.delivered⟩)) } := by
  have hkept : ∀ other b, s.began other = some b →
      Function.update s.began session (some ((s.began session).getD ⟨s.generation, s.delivered⟩)) other = some b := by
    intro other b hb
    by_cases heq : other = session
    · subst heq
      simp [hb]
    · rw [Function.update_of_ne heq, hb]
  refine { hi.refl_produced with
    began := hkept
    fresh := fun other b hb => ?_
    commands := ⟨[], by simp, by simp, by simp, by simp⟩
    controls := ⟨[], by simp, by simp⟩
    calls := fun call hcall => ?_
    delivered := fun _ h => .inl h }
  · dsimp only at hb
    by_cases heq : other = session
    · subst heq
      rw [Function.update_self, Option.some.injEq] at hb
      cases hs : s.began other with
      | none => exact .inr ⟨rfl, by rw [← hb, hs]; rfl⟩
      | some old => exact .inl (by rw [← hb, hs]; rfl)
    · rw [Function.update_of_ne heq] at hb
      exact .inl hb
  · rcases List.mem_append.1 hcall with hcall | hcall
    · obtain ⟨b, hb, hle, hle'⟩ := hi.calls call hcall
      exact ⟨b, hkept _ b hb, hle, hle'⟩
    · rw [List.mem_singleton.1 hcall]
      refine ⟨_, Function.update_self .., ?_, Nat.le_refl _⟩
      cases hs : s.began session with
      | none => exact Nat.le_refl _
      | some old => exact hi.bound session old hs

/-- The calls left, one of them changed to one of the same session and generation, or gone. -/
theorem Inv.calls_set (hi : s.Inv) (hget : s.cancelling[i]? = some call) (full : Bool) :
    Produced s { s with cancelling := s.cancelling.set i { call with full := full } } := by
  refine { hi.refl_produced with calls := fun other hother => ?_ }
  rcases List.mem_or_eq_of_mem_set hother with hother | rfl
  · exact hi.calls other hother
  · exact hi.calls call (List.mem_of_getElem? hget)

theorem Inv.calls_erase (hi : s.Inv) (i : Nat) :
    Produced s { s with cancelling := s.cancelling.eraseIdx i } :=
  { hi.refl_produced with calls := fun call h => hi.calls call (List.mem_of_mem_eraseIdx h) }

theorem Inv.cancelSend (hi : s.Inv) (hget : s.cancelling[i]? = some call) :
    Produced s { s with
      cancelling := s.cancelling.eraseIdx i, commands := s.commands ++ [.cancelSession call.session]
      delivered := call.session :: s.delivered } := by
  obtain ⟨b, hb, -⟩ := hi.calls call (List.mem_of_getElem? hget)
  have hsome : (s.began call.session).isSome = true := by rw [hb]; rfl
  refine { hi.calls_erase i with
    commands := ⟨[.cancelSession call.session], rfl, Nat.le_refl 1, by simp, fun session h => ?_⟩
    delivered := fun session h => ?_ }
  · cases List.mem_singleton.1 h
    exact hsome
  · rcases List.mem_cons.1 h with rfl | h
    · exact .inr ⟨hsome, .inr (.inl (by simp))⟩
    · exact .inl h

theorem Inv.cancelOverflow (hi : s.Inv) (hget : s.cancelling[i]? = some call) :
    Produced s ({ s with
      cancelling := s.cancelling.eraseIdx i
      delivered := call.session :: s.delivered }.sendControl
        (.cancelOverflowSession call.session call.generation)) := by
  obtain ⟨b, hb, hle⟩ := hi.calls call (List.mem_of_getElem? hget)
  have hsome : (s.began call.session).isSome = true := by rw [hb]; rfl
  unfold ScrollSystem.sendControl
  split
  · rename_i hstopped
    refine { hi.calls_erase i with delivered := fun session h => ?_ }
    rcases List.mem_cons.1 h with rfl | h
    · exact .inr ⟨hsome, .inl hstopped⟩
    · exact .inl h
  · refine { hi.calls_erase i with
      controls := ⟨[.cancelOverflowSession call.session call.generation], rfl, fun session generation h => ?_⟩
      delivered := fun session h => ?_ }
    · cases List.mem_singleton.1 h
      exact ⟨b, hb, hle⟩
    · rcases List.mem_cons.1 h with rfl | h
      · exact .inr ⟨hsome, .inr (.inr ⟨call.generation, by simp⟩)⟩
      · exact .inl h

end ScrollSystem

end Scroll
end OpenLogi
