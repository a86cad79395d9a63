import OpenLogi.Hidpp.Channel
/-!
# Wakeup — a parked request waits for a key that is held

A waker is kept until the next change that can free a key, so a request whose waker was not sent still waits for what
it parked on: a pending message of its key, or the stale key whose grace it is timing.
-/
namespace OpenLogi
namespace Hidpp

open Lib (run run_inv)

/-- The key of `p` is held: by a pending message, or by a stale key in grace whose end `p` is timing. -/
def Sys.KeyHeld (s : Sys) (p : Parked) : Prop :=
  (∃ message ∈ s.queue.messages, message.key = p.message.key) ∨
  ∃ stale ∈ s.queue.stale, stale.key = p.message.key ∧ p.timer = some stale.expires ∧ s.clock < stale.expires

structure WakeInv (s : Sys) : Prop where
  fresh : ∀ p ∈ s.parked, p.waiter < s.nextWaiter
  held : ∀ p ∈ s.parked, ¬ s.Signalled p → s.KeyHeld p

theorem wakeInv_init : WakeInv {} where
  fresh := fun _ h => absurd h List.not_mem_nil
  held := fun _ h => absurd h List.not_mem_nil

variable {s : Sys}

/-- Every waker was sent. -/
theorem wakeInv_woken {s' : Sys} (hs : WakeInv s) (hp : s'.parked = s.parked) (hn : s'.nextWaiter = s.nextWaiter)
    (hw : s'.queue.keyWaiters = []) : WakeInv s' where
  fresh := by rw [hp, hn]; exact hs.fresh
  held := fun p _ hsig => absurd (Or.inl (by rw [hw]; exact List.not_mem_nil)) hsig

/-- No waker was sent, and what held a key still does. -/
theorem wakeInv_kept {s' : Sys} (hs : WakeInv s) (hp : s'.parked ⊆ s.parked) (hn : s'.nextWaiter = s.nextWaiter)
    (hc : s.clock ≤ s'.clock) (hw : s'.queue.keyWaiters = s.queue.keyWaiters)
    (hm : s'.queue.messages = s.queue.messages)
    (hst : ∀ st ∈ s.queue.stale, ∃ st' ∈ s'.queue.stale, st'.key = st.key ∧ st'.expires = st.expires) : WakeInv s' where
  fresh := fun p h => by rw [hn]; exact hs.fresh p (hp h)
  held := by
    intro p h hsig
    have hdue : ∀ expires, p.timer = some expires → s'.clock < expires := fun expires ht =>
      Nat.lt_of_not_le fun hle => hsig (Or.inr ⟨expires, ht, hle⟩)
    have hsig' : ¬ s.Signalled p := by
      rintro (hnot | ⟨expires, ht, hle⟩)
      · exact hsig (Or.inl (by rw [hw]; exact hnot))
      · exact absurd (hdue expires ht) (by omega)
    rcases hs.held p (hp h) hsig' with ⟨message, hmem, hk⟩ | ⟨st, hmem, hk, ht, _⟩
    · exact Or.inl ⟨message, by rw [hm]; exact hmem, hk⟩
    · obtain ⟨st', hmem', hk', he'⟩ := hst st hmem
      exact Or.inr ⟨st', hmem', hk'.trans hk, by rw [he']; exact ht, by rw [he']; exact hdue _ ht⟩

/-- A request that parks waits for what kept it from registering, and the stale keys that a registration removes are
out of grace or held by the message that registers. -/
theorem wakeInv_poll (hs : WakeInv s) (message : PendingMessage) {now : Nat} (hnow : now ≤ s.clock) :
    WakeInv (s.poll message now) := by
  have hprune : ∀ st ∈ s.queue.stale, s.clock < st.expires → st ∈ (s.queue.prune now).stale := fun st h hlt =>
    PendingQueue.mem_prune.2 ⟨h, Nat.lt_of_le_of_lt hnow hlt⟩
  -- the requests parked before still wait for what the pruned queue keeps
  have hold : ∀ p ∈ s.parked, p.waiter ∈ s.queue.keyWaiters →
      (∀ expires, p.timer = some expires → s.clock < expires) →
      (∃ m ∈ s.queue.messages, m.key = p.message.key) ∨ ∃ st ∈ (s.queue.prune now).stale,
        st.key = p.message.key ∧ p.timer = some st.expires ∧ s.clock < st.expires := by
    intro p hp hw hdue
    have hsig : ¬ s.Signalled p := by
      rintro (hnot | ⟨expires, ht, hle⟩)
      · exact hnot hw
      · exact absurd (hdue expires ht) (by omega)
    rcases hs.held p hp hsig with hm | ⟨st, hst, hk, ht, hlt⟩
    · exact Or.inl hm
    · exact Or.inr ⟨st, hprune st hst hlt, hk, ht, hlt⟩
  have hpark : ∀ timer : Option Nat,
      ((∃ m ∈ s.queue.messages, m.key = message.key) ∨
        ∃ st ∈ (s.queue.prune now).stale, st.key = message.key ∧ timer = some st.expires) →
      WakeInv { s with
        queue := { s.queue.prune now with keyWaiters := (s.queue.prune now).keyWaiters ++ [s.nextWaiter] }
        nextWaiter := s.nextWaiter + 1
        parked := ⟨message, s.nextWaiter, timer⟩ :: s.parked } := by
    intro timer ht
    refine ⟨fun p hp => ?_, fun p hp hsig => ?_⟩
    · rcases List.mem_cons.1 hp with rfl | hp
      · exact Nat.lt_succ_self _
      · exact Nat.lt_succ_of_lt (hs.fresh p hp)
    have hdue : ∀ expires, p.timer = some expires → s.clock < expires := fun expires he =>
      Nat.lt_of_not_le fun hle => hsig (Or.inr ⟨expires, he, hle⟩)
    have hw : p.waiter ∈ s.queue.keyWaiters ++ [s.nextWaiter] := by
      by_contra hnot
      exact hsig (Or.inl hnot)
    rcases List.mem_cons.1 hp with rfl | hp
    · rcases ht with hm | ⟨st, hst, hk, he⟩
      · exact Or.inl hm
      · exact Or.inr ⟨st, hst, hk, he, hdue _ he⟩
    · refine hold p hp ?_ hdue
      rcases List.mem_append.1 hw with hw | hw
      · exact hw
      · exact absurd (List.mem_singleton.1 hw) (Nat.ne_of_lt (hs.fresh p hp))
  unfold Sys.poll
  rcases s.queue.tryRegister_cases message now with ⟨m, hm, hk, he⟩ | ⟨st, hst, hk, he⟩ | ⟨-, -, he⟩ <;> rw [he]
  · exact hpark none (Or.inl ⟨m, hm, hk⟩)
  · exact hpark (some st.expires) (Or.inr ⟨st, hst, hk, rfl⟩)
  · refine ⟨hs.fresh, fun p hp hsig => ?_⟩
    have hdue : ∀ expires, p.timer = some expires → s.clock < expires := fun expires ht =>
      Nat.lt_of_not_le fun hle => hsig (Or.inr ⟨expires, ht, hle⟩)
    have hw : p.waiter ∈ s.queue.keyWaiters := by
      by_contra hnot
      exact hsig (Or.inl hnot)
    rcases hold p hp hw hdue with ⟨m, hm, hk⟩ | ⟨st, hst, hk, ht, hlt⟩
    · exact Or.inl ⟨m, List.mem_append_left _ hm, hk⟩
    · by_cases hkey : st.key = message.key
      · exact Or.inl ⟨_, List.mem_append_right _ (List.mem_singleton.2 rfl), hkey.symm.trans hk⟩
      · exact Or.inr ⟨st, List.mem_filter.2 ⟨hst, decide_eq_true hkey⟩, hk, ht, hlt⟩

/-- A message frees a key only with every waker sent. -/
theorem wakeInv_receive (hs : WakeInv s) (origin : Option Nat) (msg : HidppMessage) :
    WakeInv (s.receive origin msg) := by
  unfold Sys.receive
  rcases s.queue.dispatch_cases msg s.clock with
    ⟨pre, m, post, -, -, he⟩ | ⟨pre, st, post, hl, -, ⟨-, he⟩ | ⟨-, he⟩⟩ | he <;> rw [he] <;> dsimp only
  · obtain ⟨asked, ha⟩ := ({ s with queue := _ } : Sys).markReplied_frame origin
    obtain ⟨asked', hb⟩ := (Sys.markReplied _ origin).leave_frame m.id
    rw [hb, ha]
    exact wakeInv_woken hs rfl rfl rfl
  · obtain ⟨asked, ha⟩ := ({ s with queue := ⟨s.queue.messages, pre ++ post, []⟩ } : Sys).markReplied_frame origin
    rw [ha]
    exact wakeInv_woken hs rfl rfl rfl
  · obtain ⟨asked, ha⟩ := ({ s with queue := { s.queue with
      stale := pre ++ { st with outstanding := st.outstanding - 1 } :: post } } : Sys).markReplied_frame origin
    rw [ha]
    refine wakeInv_kept hs (List.Subset.refl _) rfl (Nat.le_refl _) rfl rfl fun x hx => ?_
    rw [hl] at hx
    rcases List.mem_append.1 hx with hx | hx
    · exact ⟨x, List.mem_append_left _ hx, rfl, rfl⟩
    rcases List.mem_cons.1 hx with rfl | hx
    · exact ⟨_, List.mem_append_right _ List.mem_cons_self, rfl, rfl⟩
    · exact ⟨x, List.mem_append_right _ (List.mem_cons_of_mem _ hx), rfl, rfl⟩
  · obtain ⟨asked, ha⟩ := s.markReplied_frame origin
    rw [ha]
    exact wakeInv_kept hs (List.Subset.refl _) rfl (Nat.le_refl _) rfl rfl fun x hx => ⟨x, hx, rfl, rfl⟩

theorem wakeInv_drop (hs : WakeInv s) (id : Nat) :
    WakeInv { s with queue := s.queue.abandon id s.clock } := by
  rcases s.queue.abandon_cases id s.clock with ⟨-, he⟩ | ⟨pre, m, post, -, -, he⟩ <;> rw [he]
  · exact hs
  · exact wakeInv_woken hs rfl rfl rfl

/-- The registry is not what a parked request waits for. -/
theorem wakeInv_asked (hs : WakeInv s) (asked : Nat → Option Asked) : WakeInv { s with asked := asked } :=
  ⟨hs.fresh, hs.held⟩

theorem wakeInv_step (c : HidppChannel) (s : Sys) (e : Ev) (s' : Sys) (hs : WakeInv s) (h : step c s e = some s') :
    WakeInv s' := by
  cases e with
  | tick elapsed =>
    cases h
    exact wakeInv_kept hs (List.Subset.refl _) rfl (Nat.le_add_right _ _) rfl rfl fun st hst => ⟨st, hst, rfl, rfl⟩
  | start msg abandoned responsePredicate now =>
    simp only [step] at h
    split at h
    · rename_i hg
      cases h
      exact wakeInv_poll (s := { s with pendingMessageId := s.pendingMessageId + 1 }) ⟨hs.fresh, hs.held⟩ _ hg.2
    · cases h
  | retry id now =>
    simp only [step] at h
    split at h
    · cases h
    split at h
    · rename_i p _ hg
      cases h
      refine wakeInv_poll (s := { s with parked := _ }) ?_ p.message hg.2
      exact wakeInv_kept hs List.eraseP_subset rfl (Nat.le_refl _) rfl rfl fun st hst => ⟨st, hst, rfl, rfl⟩
    · cases h
  | cancelParked id =>
    cases h
    exact wakeInv_kept hs List.eraseP_subset rfl (Nat.le_refl _) rfl rfl fun st hst => ⟨st, hst, rfl, rfl⟩
  | send id =>
    simp only [step] at h
    split at h
    · cases h
    split at h
    · cases h
    · cases h
      exact wakeInv_asked hs _
  | incoming origin msg => cases h; exact wakeInv_receive hs origin msg
  | drop id =>
    cases h
    split
    · obtain ⟨asked, ha⟩ := ({ s with queue := s.queue.abandon id s.clock } : Sys).leave_frame id
      rw [ha]
      exact wakeInv_asked (wakeInv_drop hs id) asked
    · exact wakeInv_drop hs id

/-- **No parked request loses its wakeup**: until it is signalled, its key is held by a pending message or by a stale
key in grace whose end it is timing. -/
theorem parked_waits_for_held_key {c : HidppChannel} {es : List Ev} {s : Sys} (h : run (step c) {} es = some s) :
    ∀ p ∈ s.parked, ¬ s.Signalled p → s.KeyHeld p :=
  (run_inv WakeInv (wakeInv_step c) es {} s wakeInv_init h).held

/-- A re-asked read parks behind the reply its abandoned first ask is owed. -/
theorem reask_waits_for_owed_reply :
    let msg := HidppMessage.short (Vector.replicate 6 0)
    let ask := Ev.start msg .quarantine (fun reply => reply.header = msg.header) 0
    ∃ s p, run (step ⟨true, true⟩) {} [ask, .send 0, .drop 0, ask] = some s ∧ s.parked = [p] ∧ s.KeyHeld p := by
  intro msg ask
  obtain ⟨s, p, h, hp, hw, ht⟩ : ∃ s p, run (step ⟨true, true⟩) {} [ask, .send 0, .drop 0, ask] = some s ∧
      s.parked = [p] ∧ p.waiter ∈ s.queue.keyWaiters ∧ p.timer.all (fun expires => s.clock < expires) = true :=
    ⟨_, _, rfl, rfl, List.mem_singleton.2 rfl, rfl⟩
  refine ⟨s, p, h, hp, parked_waits_for_held_key h p (by rw [hp]; exact List.mem_singleton.2 rfl) ?_⟩
  rintro (hnot | ⟨expires, he, hle⟩)
  · exact hnot hw
  · rw [he, Option.all_some, decide_eq_true_iff] at ht
    omega

end Hidpp
end OpenLogi
