import OpenLogi.Lib.Run
import OpenLogi.Flow.Driver
/-!
# Ending — an attempt that has started ending

`Goes` says once what a turn does to the attempt: it keeps its ending, or starts one with the wait of that ending.
While an attempt ends nothing but a request of the peer reaches its session; one that the ceremony takes leaves the
ending and its deadline as they are.
-/
namespace OpenLogi
namespace Flow
namespace Driver

open Lib (run Along along_cons along_inv run_inv)

/-- How long an attempt that ends so waits: for the answer to its confirmation if that is out. -/
def wait (a : Attempt) (ending : Ending) : Nat :=
  if ending = .paired ∧ a.link.any Link.confirming = true then callTimeout else linger

theorem wait_flushing (a : Attempt) : wait a .flushing = linger := if_neg fun h => by cases h.1

/-- What a turn that ends at `later` does to an attempt. -/
structure Goes (later : Nat) (a a' : Attempt) : Prop where
  id : a'.id = a.id
  link : a.link.isSome = true → a'.link.isSome = true
  dial : Task.dial ∈ a'.tasks → Task.dial ∈ a.tasks ∧ (a'.link.isSome = true → a.link.isSome = true)
  ending : a'.ending = a.ending ∨
    ∃ k, a'.ending = some k ∧ a'.deadline = later + wait a' k ∧ a'.shown = false ∧ a'.link.isSome = true

/-- The attempt after a turn is one from before it. -/
structure Follows (later : Nat) (s s' : Session) : Prop where
  attempt : ∀ a', s'.attempt = some a' → ∃ a, s.attempt = some a ∧ Goes later a a'
  next : s'.nextAttempt = s.nextAttempt
  closed : s'.closed = s.closed

variable {crypto : Crypto} {s s' : Session} {a a' a'' : Attempt} {later now : Nat}

theorem Goes.refl (a : Attempt) : Goes later a a := ⟨rfl, fun h => h, fun h => ⟨h, fun h => h⟩, .inl rfl⟩

/-- A change of the attempt that keeps its ending, then a turn. -/
theorem Goes.after (h : Goes later a' a'') (hid : a'.id = a.id) (hending : a'.ending = a.ending)
    (hlink : a.link.isSome = true → a'.link.isSome = true)
    (hdial : Task.dial ∈ a'.tasks → Task.dial ∈ a.tasks ∧ (a'.link.isSome = true → a.link.isSome = true)) :
    Goes later a a'' := by
  refine ⟨h.id.trans hid, fun hl => h.link (hlink hl), fun hd => ?_, ?_⟩
  · obtain ⟨hd, hl⟩ := h.dial hd
    exact ⟨(hdial hd).1, fun hs => (hdial hd).2 (hl hs)⟩
  · rw [← hending]
    exact h.ending

theorem Follows.refl (s : Session) : Follows later s s := ⟨fun a' h => ⟨a', h, .refl a'⟩, rfl, rfl⟩

theorem Follows.gone (hn : s'.attempt = none) (hnext : s'.nextAttempt = s.nextAttempt) (hc : s'.closed = s.closed) :
    Follows later s s' :=
  ⟨fun a' h => (by rw [hn] at h; cases h), hnext, hc⟩

/-- A turn that starts by changing the attempt, its ending kept. -/
theorem Follows.after {s₁ : Session} (h : Follows later s₁ s') (ha : s.attempt = some a) (ha' : s₁.attempt = some a')
    (hnext : s₁.nextAttempt = s.nextAttempt) (hc : s₁.closed = s.closed) (hid : a'.id = a.id)
    (hending : a'.ending = a.ending) (hlink : a.link.isSome = true → a'.link.isSome = true)
    (hdial : Task.dial ∈ a'.tasks → Task.dial ∈ a.tasks ∧ (a'.link.isSome = true → a.link.isSome = true)) :
    Follows later s s' := by
  refine ⟨fun a'' h'' => ?_, h.next.trans hnext, h.closed.trans hc⟩
  obtain ⟨b, hb, hg⟩ := h.attempt a'' h''
  rw [ha'] at hb
  cases hb
  exact ⟨a, ha, hg.after hid hending hlink hdial⟩

/-- A turn that starts by changing an attempt that dials only over its link. -/
theorem Follows.linked {s₁ : Session} (ha : s.attempt = some a) (hdials : Task.dial ∈ a.tasks → a.link.isSome = true)
    (h : Follows later s₁ s') (ha' : s₁.attempt = some a') (hnext : s₁.nextAttempt = s.nextAttempt)
    (hc : s₁.closed = s.closed) (hid : a'.id = a.id) (hending : a'.ending = a.ending) (hlink : a'.link.isSome = true)
    (htasks : Task.dial ∈ a'.tasks → Task.dial ∈ a.tasks) : Follows later s s' :=
  h.after ha ha' hnext hc hid hending (fun _ => hlink) fun hd => ⟨htasks hd, fun _ => hdials (htasks hd)⟩

namespace Attempt

theorem abort_keeps (a : Attempt) (reason : PairingAbortReason) :
    (a.abort reason).id = a.id ∧ (a.abort reason).ending = a.ending ∧ (a.abort reason).link.isSome = a.link.isSome ∧
      (Task.dial ∈ (a.abort reason).tasks → Task.dial ∈ a.tasks) := by
  unfold abort
  split
  · exact ⟨rfl, rfl, rfl, fun h => h⟩
  · rename_i link hl
    split
    · exact ⟨rfl, rfl, by rw [hl]; rfl, by simp⟩
    · split
      · exact ⟨rfl, rfl, by rw [hl]; rfl, by simp⟩
      · exact ⟨rfl, rfl, by rw [hl]; rfl, fun h => h⟩

theorem tell_keeps (a : Attempt) (close : Close) :
    (a.tell close).id = a.id ∧ (a.tell close).ending = a.ending ∧ (a.tell close).link.isSome = a.link.isSome ∧
      (Task.dial ∈ (a.tell close).tasks → Task.dial ∈ a.tasks) := by
  cases close with
  | now => exact ⟨rfl, rfl, rfl, fun h => h⟩
  | flush => exact ⟨rfl, rfl, rfl, fun h => h⟩
  | abort reason => exact a.abort_keeps reason

end Attempt

namespace Session

theorem failWith_follows (failure : Option FlowPairingFailure) (close : Close) :
    Follows later s (s.failWith failure close later) := by
  cases ha : s.attempt with
  | none =>
    simp only [failWith, ha]
    exact .refl s
  | some a =>
    simp only [failWith, ha]
    obtain ⟨hid, -, hl, hd⟩ := a.tell_keeps close
    by_cases hc : close ≠ .now ∧ (a.tell close).link.isSome = true
    · rw [if_pos hc]
      refine ⟨fun a' h' => ⟨a, ha, ?_⟩, rfl, rfl⟩
      cases h'
      refine ⟨hid, fun h => hl.trans h, fun h => ⟨hd h, fun h => hl.symm.trans h⟩, .inr ⟨.flushing, rfl, ?_, rfl, hc.2⟩⟩
      rw [wait_flushing]
      rfl
    · rw [if_neg hc]
      exact .gone rfl rfl rfl

theorem fail_follows (failure : FlowPairingFailure) (close : Close) : Follows later s (s.fail failure close later) :=
  failWith_follows _ close

theorem settle_follows (saved : Option String) : Follows later s (s.settle saved later) := by
  unfold settle
  split
  · exact .refl s
  · rename_i a ha
    split
    · exact .refl s
    · rename_i link hl
      split
      · split
        · exact .refl s
        · refine ⟨fun a' h' => ⟨a, ha, ?_⟩, rfl, rfl⟩
          cases h'
          refine ⟨rfl, fun h => h, fun h => ⟨h, fun h => h⟩,
            .inr ⟨.paired, rfl, ?_, rfl, by rw [Attempt.endWith, hl]; rfl⟩⟩
          simp [Attempt.endWith, wait, hl]
      · exact fail_follows _ _
      · exact fail_follows _ _
      · exact .refl s

theorem handle_keeps {link : Link} (hl : a.link = some link) (request : Request) (nonce : Option PairingNonce)
    (save : Save) :
    (s.handle crypto a link request nonce save now later).attempt.id = a.id ∧
      (s.handle crypto a link request nonce save now later).attempt.ending = a.ending ∧
      (s.handle crypto a link request nonce save now later).attempt.link.isSome = true ∧
      (s.handle crypto a link request nonce save now later).attempt.tasks = a.tasks := by
  have hs : a.link.isSome = true := by rw [hl]; rfl
  unfold handle
  split
  · split
    · split
      · split <;> exact ⟨rfl, rfl, rfl, rfl⟩
      · exact ⟨rfl, rfl, hs, rfl⟩
    · exact ⟨rfl, rfl, hs, rfl⟩
  · split
    · split <;> exact ⟨rfl, rfl, rfl, rfl⟩
    · exact ⟨rfl, rfl, hs, rfl⟩
  · split <;> exact ⟨rfl, rfl, rfl, rfl⟩
  · exact ⟨rfl, rfl, hs, rfl⟩

theorem request_follows (request : Request) (nonce : Option PairingNonce) (save : Save) :
    Follows later s (s.request crypto request nonce save now later) := by
  unfold Session.request
  split
  · exact .refl s
  · rename_i a ha
    split
    · exact .refl s
    · rename_i link hl
      obtain ⟨hid, he, hls, ht⟩ := @handle_keeps crypto s a later now link hl request nonce save
      have hdial : Task.dial ∈ ((s.handle crypto a link request nonce save now later).attempt.respond
          (s.handle crypto a link request nonce save now later).response).tasks → Task.dial ∈ a.tasks := by
        intro hd
        simp only [Attempt.respond, List.mem_append, List.mem_singleton, reduceCtorEq, or_false] at hd
        rw [ht] at hd
        exact hd
      have hsome : a.link.isSome = true := by rw [hl]; rfl
      dsimp only
      split
      · exact (fail_follows _ _).after ha rfl rfl rfl hid he (fun _ => hls) (fun hd => ⟨hdial hd, fun _ => hsome⟩)
      · exact (settle_follows _).after ha rfl rfl rfl hid he (fun _ => hls) (fun hd => ⟨hdial hd, fun _ => hsome⟩)

theorem notification_follows (notification : Notification) : Follows later s (s.notification notification later) := by
  unfold Session.notification
  split
  · exact .refl s
  · rename_i a ha
    split
    · rename_i link abort he hl
      split
      · exact .refl s
      · exact (fail_follows _ _).after ha rfl rfl rfl rfl rfl (fun _ => rfl) (fun hd => ⟨hd, fun _ => by rw [hl]; rfl⟩)
    · exact .refl s

theorem answered_follows (call : Driver.Call) (answer : Option Answer) (busy : Bool) :
    Follows later s (s.answered crypto call answer busy now later) := by
  unfold Session.answered
  split
  · exact .refl s
  · rename_i a ha
    split
    · exact .refl s
    · rename_i link hl
      have hdials : Task.dial ∈ a.tasks → a.link.isSome = true := fun _ => by rw [hl]; rfl
      dsimp only
      generalize (if call = .confirm then { link with confirming := false } else link) = link'
      -- every branch starts from the attempt with its link and its tasks, one more at most
      split
      · exact .gone rfl rfl rfl
      · split
        · exact .linked ha hdials (.refl _) rfl rfl rfl rfl rfl rfl (fun h => h)
        · split
          · exact .linked ha hdials (fail_follows _ _) rfl rfl rfl rfl rfl rfl (fun h => h)
          · split
            · split
              · exact .linked ha hdials (.refl _) rfl rfl rfl rfl rfl rfl (fun h => by simpa using h)
              · exact .linked ha hdials (settle_follows _) rfl rfl rfl rfl rfl rfl (fun h => h)
              · exact .linked ha hdials (fail_follows _ _) rfl rfl rfl rfl rfl rfl (fun h => h)
            · split
              · exact .linked ha hdials (.refl _) rfl rfl rfl rfl rfl rfl (fun h => h)
              · exact .linked ha hdials (fail_follows _ _) rfl rfl rfl rfl rfl rfl (fun h => h)

theorem connected_follows (ha : s.attempt = some a) (hd : Task.dial ∉ a.tasks) (connection : Connection)
    (nonce : Option PairingNonce) : Follows later s (s.connected crypto connection nonce later) := by
  have hdials : Task.dial ∈ a.tasks → a.link.isSome = true := fun h => absurd h hd
  simp only [Session.connected, ha]
  split
  · exact .linked ha hdials (.refl _) rfl rfl rfl rfl rfl rfl (fun h => by simpa using h)
  · exact .linked ha hdials (fail_follows _ _) rfl rfl rfl rfl rfl rfl (fun h => by simpa using h)
  · split
    · exact .linked ha hdials (fail_follows _ _) rfl rfl rfl rfl rfl rfl (fun h => by simpa using h)
    · exact .linked ha hdials (.refl _) rfl rfl rfl rfl rfl rfl (fun h => by simpa using h)

theorem confirm_follows (save : Save) : Follows later s (s.confirm save now later).2 := by
  unfold Session.confirm
  split
  · exact .refl s
  · rename_i a ha
    split
    · rename_i link he hl
      have hdials : Task.dial ∈ a.tasks → a.link.isSome = true := fun _ => by rw [hl]; rfl
      split
      · generalize link.confirm save (fun session store => session.confirmLocal now store none) = confirmed
        obtain ⟨confirmed, link', saved⟩ := confirmed
        dsimp only
        split
        · dsimp only
          exact .linked ha hdials (fail_follows _ _) rfl rfl rfl rfl rfl rfl (fun h => h)
        · dsimp only
          by_cases htell : tellPeer link'.session.state = true
          · rw [if_pos htell]
            exact .linked ha hdials (settle_follows _) rfl rfl rfl rfl rfl rfl (fun h => by simpa using h)
          · rw [if_neg htell]
            exact .linked ha hdials (settle_follows _) rfl rfl rfl rfl rfl rfl (fun h => h)
      · exact .refl s
    · exact .refl s

theorem cancel_follows : Follows later s (s.cancel later) := by
  unfold cancel
  have h : Follows later s { s with result := none } := ⟨fun a ha => ⟨a, ha, .refl a⟩, rfl, rfl⟩
  dsimp only
  split
  · have hf : Follows later { s with result := none }
        (({ s with result := none } : Session).failWith none (.abort .userCancelled) later) :=
      failWith_follows none _
    exact ⟨hf.1, hf.2, hf.3⟩
  · exact h

theorem stop_follows : Follows later s (s.stop later) := by
  have hf : Follows later s (s.cancel later) := cancel_follows
  obtain ⟨ha, hn, hc⟩ := hf
  unfold stop
  dsimp only
  split
  · exact .gone rfl hn hc
  · exact ⟨ha, hn, hc⟩

theorem deadline_follows : Follows later s (s.deadline later) := by
  unfold Session.deadline
  split
  · exact .refl s
  · split
    · exact .gone rfl rfl rfl
    · exact fail_follows _ _

theorem event_follows (ha : s.attempt = some a) (event : AttemptEvent) :
    Follows later s (s.event crypto a event now later) := by
  cases event with
  | connected connection nonce =>
    have hdial : Task.dial ∉ a.tasks.filter (· ≠ Task.dial) := by simp
    have hafter : ∀ s', Follows later
        { s with attempt := some { a with tasks := a.tasks.filter (· ≠ Task.dial) } } s' → Follows later s s' :=
      fun s' h => h.after ha rfl rfl rfl rfl rfl (fun h => h) (fun h' => absurd h' hdial)
    unfold Session.event
    dsimp only
    split
    · exact hafter _ (connected_follows rfl hdial _ _)
    · exact hafter _ (fail_follows _ _)
  | request request nonce save => exact request_follows request nonce save
  | notification notification => exact notification_follows notification
  | answered call answer busy => exact answered_follows call answer busy
  | closed busy =>
    unfold Session.event
    dsimp only
    split
    · exact .gone rfl rfl rfl
    · exact fail_follows _ _

end Session

/-- What one turn does to the attempt. -/
inductive Turned (later : Nat) (s s' : Session) : Prop
  | follows (h : Follows later s s')
  | fresh (a : Attempt) (attempt : s'.attempt = some a) (id : a.id = s.nextAttempt + 1)
    (next : s'.nextAttempt = s.nextAttempt + 1) (ending : a.ending = none) (link : a.link = none)
    (closed : s'.closed = s.closed)
  | closes (attempt : s'.attempt = none) (next : s'.nextAttempt = s.nextAttempt)

namespace Session

theorem pair_turned (target : FlowPairTarget) : Turned later s (s.pair target later).2 := by
  unfold pair
  split
  · exact .follows (.refl s)
  · dsimp only
    split
    · split
      · exact .follows (.refl s)
      · exact .fresh _ rfl rfl rfl rfl rfl rfl
    · exact .fresh _ rfl rfl rfl rfl rfl rfl

theorem incoming_turned : Turned later s (s.incoming later) := by
  unfold incoming
  split
  · exact .follows (.refl s)
  · exact .fresh _ rfl rfl rfl rfl rfl rfl

/-- **Every turn of the loop.** -/
theorem step_turned {turn : Turn} (h : s.step crypto turn = some s') : Turned turn.later s s' := by
  obtain ⟨now, later, event⟩ := turn
  have hopen : ¬ (s.closed = true ∨ (s.stopping = true ∧ s.attempt.isNone = true)) := by
    intro hc
    rw [step, if_pos hc] at h
    cases h
  have hkeep : ∀ {s₁ : Session}, s₁.attempt = s.attempt → s₁.nextAttempt = s.nextAttempt → s₁.closed = s.closed →
      Turned later s s₁ := fun ha hn hc => .follows ⟨fun a h => ⟨a, ha ▸ h, .refl a⟩, hn, hc⟩
  rw [step, if_neg hopen] at h
  cases event with
  | renew =>
    dsimp only at h
    split at h
    · cases h
    · cases h
      exact hkeep rfl rfl rfl
  | pair target =>
    dsimp only at h
    split at h
    · cases h
    · cases h
      exact pair_turned target
  | confirm save =>
    dsimp only at h
    split at h
    · cases h
    · cases h
      exact .follows (confirm_follows save)
  | cancel =>
    dsimp only at h
    split at h
    · cases h
    · cases h
      exact .follows cancel_follows
  | stop =>
    dsimp only at h
    split at h
    · cases h
    · cases h
      exact .follows stop_follows
  | incoming =>
    cases h
    exact incoming_turned
  | nearby candidates =>
    cases h
    exact hkeep rfl rfl rfl
  | deadline =>
    dsimp only at h
    split at h
    · cases h
      exact .follows deadline_follows
    · cases h
  | expires =>
    dsimp only at h
    split at h
    · rename_i hc
      cases h
      exact .closes (Option.isNone_iff_eq_none.1 hc.1) rfl
    · cases h
  | endpointClosed =>
    cases h
    exact .closes rfl rfl
  | tagged id event =>
    dsimp only at h
    split at h
    · cases h
      exact .follows (.refl s)
    · rename_i a ha
      split at h
      · split at h
        · split at h
          · cases h
            exact .follows (event_follows ha _)
          · cases h
        · cases h
          exact .follows (event_follows ha _)
      · cases h
        exact .follows (.refl s)

end Session
/-! ## The sessions of a run -/

/-- An attempt is connected once its dial has reported, and ends only then. -/
structure Sound (s : Session) : Prop where
  id : ∀ a, s.attempt = some a → a.id ≤ s.nextAttempt
  dial : ∀ a, s.attempt = some a → a.link.isSome = true → Task.dial ∉ a.tasks
  ending : ∀ a, s.attempt = some a → a.ending.isSome = true → a.link.isSome = true
  closed : s.closed = true → s.attempt = none

theorem sound_opened (codeTimeoutForPeer : Option Nat) (localKey : PublicKey) (now : Nat) :
    Sound (.opened codeTimeoutForPeer localKey now) :=
  ⟨fun a h => (by cases h), fun a h => (by cases h), fun a h => (by cases h), fun _ => rfl⟩

variable {turn : Turn} {p : PairingSession} {link : Link}

theorem not_closed_of_step (h : s.step crypto turn = some s') : s.closed = false := by
  by_contra hc
  rw [Session.step, if_pos (.inl (Bool.not_eq_false _ ▸ hc))] at h
  cases h

theorem sound_step (hs : Sound s) (h : s.step crypto turn = some s') : Sound s' := by
  have hopen := not_closed_of_step h
  cases Session.step_turned h with
  | follows hf =>
    refine ⟨fun a' h' => ?_, fun a' h' hl => ?_, fun a' h' he => ?_, fun hc => ?_⟩
    · obtain ⟨a, ha, hg⟩ := hf.attempt a' h'
      rw [hg.id, hf.next]
      exact hs.id a ha
    · obtain ⟨a, ha, hg⟩ := hf.attempt a' h'
      intro hd
      obtain ⟨hd, hl'⟩ := hg.dial hd
      exact hs.dial a ha (hl' hl) hd
    · obtain ⟨a, ha, hg⟩ := hf.attempt a' h'
      rcases hg.ending with hk | ⟨k, -, -, -, hl⟩
      · rw [hk] at he
        exact hg.link (hs.ending a ha he)
      · exact hl
    · rw [hf.closed, hopen] at hc
      cases hc
  | fresh a attempt id next ending link closed =>
    refine ⟨fun a' h' => ?_, fun a' h' hl => ?_, fun a' h' he => ?_, fun hc => ?_⟩
    · rw [attempt] at h'
      cases h'
      omega
    · rw [attempt] at h'
      cases h'
      rw [link] at hl
      cases hl
    · rw [attempt] at h'
      cases h'
      rw [ending] at he
      cases he
    · rw [closed, hopen] at hc
      cases hc
  | closes attempt next =>
    refine ⟨fun a' h' => ?_, fun a' h' _ => ?_, fun a' h' _ => ?_, fun _ => attempt⟩ <;>
      rw [attempt] at h' <;> cases h'

/-- **A turn in which an attempt starts ending** sets the deadline of that ending. -/
theorem deadline_of_ends {k : Ending} (h : s.step crypto turn = some s') (ha' : s'.attempt = some a')
    (hk : a'.ending = some k) (hnew : ∀ a, s.attempt = some a → a.id = a'.id → a.ending = none) :
    a'.deadline = turn.later + wait a' k ∧ a'.shown = false := by
  cases Session.step_turned h with
  | follows hf =>
    obtain ⟨a, ha, hg⟩ := hf.attempt a' ha'
    rcases hg.ending with he | ⟨k', hk', hd, hsh, -⟩
    · rw [hnew a ha hg.id.symm, hk] at he
      cases he
    · rw [hk] at hk'
      cases hk'
      exact ⟨hd, hsh⟩
  | fresh b attempt _ _ ending =>
    rw [ha'] at attempt
    cases attempt
    rw [hk] at ending
    cases ending
  | closes attempt =>
    rw [ha'] at attempt
    cases attempt

/-! ## Requests while the attempt ends -/

/-- A request that the ceremony of an ending attempt takes: it neither starts the ceremony nor completes nor fails it,
and the ceremony has not been rejected or timed out. -/
def Link.Takes (crypto : Crypto) (role : Role) (link : Link) (now : Nat) : Request → Option PairingNonce → Save → Prop
  | .pairStart start, nonce, _ =>
    link.session.phase ≠ .rejected ∧ link.session.phase ≠ .timedOut ∧
      (role = .responder → nonce ≠ none → link.session.phase = .idle → ∀ m ∈ start, m.nonceCommitment.length ≠ 32)
  | .pairReveal reveal, _, _ =>
    ∃ m commitment nonce deadline peerNonce, reveal = some m ∧
      link.session.phase = .awaitingReveal commitment nonce deadline ∧ now < deadline.at_ ∧
      m.nonce = peerNonce.val ∧ opensTo crypto commitment link.session.peerKey link.session.localKey peerNonce = true
  | .pairConfirm, _, save =>
    (∀ detail, save ≠ .lost detail) ∧
      (link.session.phase = .paired ∨
        (∃ code deadline peerConfirmed, link.session.phase = .awaitingRevealed code deadline peerConfirmed ∧
          now < deadline.at_) ∨
        ∃ p, link.session.phase = .prompted p ∧ now < p.deadline.at_ ∧ p.localConfirmed = false)
  | .other, _, _ => link.session.phase ≠ .rejected ∧ link.session.phase ≠ .timedOut

theorem state_rejected : p.state = .rejected ↔ p.phase = .rejected := by
  unfold PairingSession.state
  split <;> rename_i hp <;> simp [hp]

theorem state_timedOut : p.state = .timedOut ↔ p.phase = .timedOut := by
  unfold PairingSession.state
  split <;> rename_i hp <;> simp [hp]

/-- The ceremony goes on: there is nothing to act on. -/
theorem settle_none (ha : s.attempt = some a) (hl : a.link = some link) (hr : link.session.phase ≠ .rejected)
    (ht : link.session.phase ≠ .timedOut) : s.settle none later = s := by
  simp only [Session.settle, ha, hl]
  split
  · rfl
  · rename_i h
    exact absurd (state_rejected.1 h) hr
  · rename_i h
    exact absurd (state_timedOut.1 h) ht
  · rfl

/-- A confirmation that completes nothing. -/
theorem receiveConfirm_pending (store : PeerKeyStore (Option String)) (h : p.phase = .paired ∨
      (∃ code deadline peerConfirmed, p.phase = .awaitingRevealed code deadline peerConfirmed ∧ now < deadline.at_) ∨
      ∃ q, p.phase = .prompted q ∧ now < q.deadline.at_ ∧ q.localConfirmed = false) :
    ∃ outcome p', p.receiveConfirm now store none = (.ok outcome, p', none) ∧ p'.phase ≠ .rejected ∧
      p'.phase ≠ .timedOut := by
  rcases h with hp | ⟨code, deadline, peerConfirmed, hp, hlt⟩ | ⟨q, hp, hlt, hlocal⟩
  · refine ⟨pairOutcome .paired, p, ?_, by simp [hp], by simp [hp]⟩
    simp [PairingSession.receiveConfirm, PairingSession.confirm, hp, Except.map]
  · have hexp : deadline.expired now = false := by
      simp [Deadline.expired]
      omega
    refine ⟨pairOutcome .pendingLocal, { p with phase := .awaitingRevealed code deadline true }, ?_, nofun, nofun⟩
    simp [PairingSession.receiveConfirm, PairingSession.confirm, hp, hexp, Except.map]
  · have hexp : q.deadline.expired now = false := by
      simp [Deadline.expired]
      omega
    refine ⟨pairOutcome .pendingLocal, { p with phase := .prompted (q.mark .peer) }, ?_, nofun, nofun⟩
    simp [PairingSession.receiveConfirm, PairingSession.confirm, PairingSession.confirmPrompted, hp, hexp,
      Prompted.mark, hlocal, Except.map]

theorem handle_takes {request : Request} {nonce : Option PairingNonce} {save : Save} (hl : a.link = some link)
    (h : link.Takes crypto a.role now request nonce save) :
    ∃ link' response, s.handle crypto a link request nonce save now later =
        ⟨{ a with link := some link' }, false, response, none, none⟩ ∧
      link'.session.phase ≠ .rejected ∧ link'.session.phase ≠ .timedOut := by
  have hself : { a with link := some link } = a := by rw [← hl]
  cases request with
  | pairStart start =>
    obtain ⟨hr, ht, hstart⟩ := h
    by_cases hrole : a.role = .responder
    · cases start with
      | none =>
        refine ⟨link, .error .invalid "invalid PairStart", ?_, hr, ht⟩
        simp only [Session.handle, if_pos hrole, hself]
      | some m =>
        cases nonce with
        | none =>
          refine ⟨link, .error .invalid "invalid PairStart", ?_, hr, ht⟩
          simp only [Session.handle, if_pos hrole, hself]
        | some n =>
          have herr : ∃ e, link.session.receiveStart m n now s.codeTimeoutForPeer = (.error e, link.session) := by
            by_cases hidle : link.session.phase = .idle
            · have hlen := hstart hrole nofun hidle m rfl
              refine ⟨.invalidField "nonce_commitment" ⟨32, m.nonceCommitment.length⟩, ?_⟩
              simp [PairingSession.receiveStart, PairingSession.ensureIdle, hidle, fixed, hlen]
            · refine ⟨link.session.invalidTransition, ?_⟩
              have hne : link.session.ensureIdle = .error link.session.invalidTransition := by
                unfold PairingSession.ensureIdle
                split
                · contradiction
                · rfl
              simp only [PairingSession.receiveStart, hne]
          obtain ⟨e, he⟩ := herr
          refine ⟨link, .error .invalid "invalid PairStart", ?_, hr, ht⟩
          simp only [Session.handle, if_pos hrole, he, hself]
    · refine ⟨link, .error .invalid "already pairing", ?_, hr, ht⟩
      simp only [Session.handle, if_neg hrole, hself]
  | pairReveal reveal =>
    obtain ⟨m, commitment, n, deadline, peerNonce, rfl, hp, hlt, hm, ho⟩ := h
    have hexp : deadline.expired now = false := by
      simp [Deadline.expired]
      omega
    have hreveal : ∃ p, link.session.receiveReveal crypto m now =
        (.ok ⟨⟩, { link.session with phase := .prompted p }) := by
      simp [PairingSession.receiveReveal, hp, hexp, hm, ho]
    obtain ⟨p, hreveal⟩ := hreveal
    refine ⟨{ link with session := { link.session with phase := .prompted p } }, .revealed ⟨⟩, ?_, nofun, nofun⟩
    simp only [Session.handle, hreveal]
  | pairConfirm =>
    obtain ⟨hlost, hpending⟩ := h
    obtain ⟨outcome, p, hconfirm, hr, ht⟩ := receiveConfirm_pending save.store hpending
    have hlink : link.confirm save (fun session store => session.receiveConfirm now store none) =
        (.ok outcome, { link with session := p }, none) := by
      cases save with
      | lost detail => exact absurd rfl (hlost detail)
      | saved name => simp only [Link.confirm, hconfirm]
      | refused error => simp only [Link.confirm, hconfirm]
    refine ⟨{ link with session := p }, .outcome outcome, ?_, hr, ht⟩
    simp only [Session.handle, hlink]
  | other =>
    refine ⟨link, .error .unsupportedKind "only pairing requests are served", ?_, h⟩
    simp only [Session.handle, hself]

/-- **A request that the ceremony takes** leaves the attempt as it is, but for its session and its tasks. -/
theorem request_takes {request : Request} {nonce : Option PairingNonce} {save : Save} (ha : s.attempt = some a)
    (hl : a.link = some link) (h : link.Takes crypto a.role now request nonce save) :
    ∃ link' response, s.request crypto request nonce save now later =
      { s with attempt := some ({ a with link := some link' }.respond response) } := by
  obtain ⟨link', response, hhandle, hr, ht⟩ := @handle_takes crypto s a later now link request nonce save hl h
  refine ⟨link', response, ?_⟩
  simp only [Session.request, ha, hl, hhandle]
  exact settle_none rfl rfl hr ht

/-! ## Runs -/

/-- Every request of the peer handled on an attempt that ends is one its ceremony takes. -/
def Undisturbed (crypto : Crypto) (s : Session) (turn : Turn) : Prop :=
  match turn.event with
  | .tagged id (.request request nonce save) =>
    ∀ a ∈ s.attempt, a.id = id → a.ending.isSome = true → ∀ link ∈ a.link,
      link.Takes crypto a.role turn.now request nonce save
  | _ => True

/-- The attempt still ends as it did. -/
structure Keeps (a a' : Attempt) : Prop where
  id : a'.id = a.id
  ending : a'.ending = a.ending
  deadline : a'.deadline = a.deadline
  shown : a'.shown = a.shown

theorem Keeps.refl (a : Attempt) : Keeps a a := ⟨rfl, rfl, rfl, rfl⟩

/-- What a turn may do to an attempt that ends: let it go, make room for another, or keep it. -/
def Lets (a : Attempt) (s s' : Session) : Prop :=
  ∀ a', s'.attempt = some a' → Keeps a a' ∨ a'.id = s.nextAttempt + 1

theorem Lets.same (ha : s.attempt = some a) (h : s'.attempt = s.attempt) : Lets a s s' := by
  intro a' h'
  rw [h, ha] at h'
  cases h'
  exact .inl (.refl a)

theorem Lets.gone (h : s'.attempt = none) : Lets a s s' := by
  intro a' h'
  rw [h] at h'
  cases h'

theorem answered_lets (ha : s.attempt = some a) (he : a.ending.isSome = true) (call : Driver.Call)
    (answer : Option Answer) (busy : Bool) : Lets a s (s.answered crypto call answer busy now later) := by
  cases hl : a.link with
  | none =>
    refine .same ha ?_
    simp [Session.answered, ha, hl]
  | some link =>
    simp only [Session.answered, ha, hl]
    generalize (if call = .confirm then ({ link with confirming := false } : Link) else link) = link'
    split
    · exact .gone rfl
    · intro a' h'
      rw [if_pos (.inl he)] at h'
      cases h'
      exact .inl ⟨rfl, rfl, rfl, rfl⟩

theorem event_lets (hs : Sound s) (ha : s.attempt = some a) (he : a.ending.isSome = true) {event : AttemptEvent}
    (hu : ∀ request nonce save, event = .request request nonce save → ∀ link ∈ a.link,
      link.Takes crypto a.role now request nonce save)
    (hd : ∀ connection nonce, event = .connected connection nonce → Task.dial ∈ a.tasks) :
    Lets a s (s.event crypto a event now later) := by
  have hl := hs.ending a ha he
  cases event with
  | connected connection nonce => exact absurd (hd connection nonce rfl) (hs.dial a ha hl)
  | request request nonce save =>
    obtain ⟨link, hlink⟩ := Option.isSome_iff_exists.1 hl
    obtain ⟨link', response, hreq⟩ := @request_takes crypto s a later now link request nonce save ha hlink
      (hu request nonce save rfl link hlink)
    intro a' h'
    rw [Session.event, hreq] at h'
    cases h'
    exact .inl ⟨rfl, rfl, rfl, rfl⟩
  | notification notification =>
    refine .same ha ?_
    obtain ⟨k, hk⟩ := Option.isSome_iff_exists.1 he
    simp [Session.event, Session.notification, ha, hk]
  | answered call answer busy => exact answered_lets ha he call answer busy
  | closed busy =>
    refine .gone ?_
    simp [Session.event, he]

theorem pair_lets (ha : s.attempt = some a) (target : FlowPairTarget) : Lets a s (s.pair target later).2 := by
  unfold Session.pair
  split
  · exact .same ha rfl
  · dsimp only
    split
    · split
      · exact .same ha rfl
      · intro a' h'
        cases h'
        exact .inr rfl
    · intro a' h'
      cases h'
      exact .inr rfl

theorem cancel_attempt (ha : s.attempt = some a) (he : a.ending.isSome = true) :
    (s.cancel later).attempt = some a := by
  unfold Session.cancel
  have hn : a.ending.isNone = false := by simpa using he
  simp [ha, hn]

/-- **While an attempt ends**, a turn in which the ceremony takes the peer's request lets it go or keeps it. -/
theorem step_lets (hs : Sound s) (ha : s.attempt = some a) (he : a.ending.isSome = true)
    (hu : Undisturbed crypto s turn) (h : s.step crypto turn = some s') : Lets a s s' := by
  obtain ⟨now, later, event⟩ := turn
  have hopen : ¬ (s.closed = true ∨ (s.stopping = true ∧ s.attempt.isNone = true)) := by
    intro hc
    rw [Session.step, if_pos hc] at h
    cases h
  rw [Session.step, if_neg hopen] at h
  have hn : a.ending.isNone = false := by simpa using he
  cases event with
  | renew =>
    dsimp only at h
    split at h
    · cases h
    · cases h
      exact .same ha rfl
  | pair target =>
    dsimp only at h
    split at h
    · cases h
    · cases h
      exact pair_lets ha target
  | confirm save =>
    dsimp only at h
    split at h
    · cases h
    · cases h
      refine .same ha ?_
      obtain ⟨k, hk⟩ := Option.isSome_iff_exists.1 he
      simp [Session.confirm, ha, hk]
  | cancel =>
    dsimp only at h
    split at h
    · cases h
    · cases h
      exact .same ha ((cancel_attempt ha he).trans ha.symm)
  | stop =>
    dsimp only at h
    split at h
    · cases h
    · cases h
      refine .same ha ?_
      have hc : (s.cancel later).attempt = some a := cancel_attempt ha he
      simp [Session.stop, hc, hn, ha]
  | incoming =>
    cases h
    refine .same ha ?_
    simp [Session.incoming, ha]
  | nearby candidates =>
    cases h
    exact .same ha rfl
  | deadline =>
    dsimp only at h
    split at h
    · cases h
      refine .gone ?_
      simp [Session.deadline, ha, he]
    · cases h
  | expires =>
    dsimp only at h
    split at h
    · rename_i hc
      rw [ha] at hc
      cases hc.1
    · cases h
  | endpointClosed =>
    cases h
    exact .gone rfl
  | tagged id event =>
    dsimp only at h
    simp only [ha] at h
    split at h
    · rename_i hid
      have hlets : (∀ connection nonce, event = .connected connection nonce → Task.dial ∈ a.tasks) →
          Lets a s (s.event crypto a event now later) := by
        refine event_lets hs ha he fun request nonce save hev link hlink => ?_
        subst hev
        exact hu a ha hid he link hlink
      split at h
      · split at h
        · rename_i hd
          cases h
          exact hlets fun _ _ _ => hd
        · cases h
      · rename_i hne
        cases h
        exact hlets fun connection nonce hev => absurd hev (hne connection nonce)
    · cases h
      exact .same ha rfl

theorem next_le_of_turned (h : Turned later s s') : s.nextAttempt ≤ s'.nextAttempt := by
  cases h with
  | follows hf => exact Nat.le_of_eq hf.next.symm
  | fresh _ _ _ next => omega
  | closes _ next => exact Nat.le_of_eq next.symm

/-- The attempt `a` still ends as it did, unless it is gone. -/
structure Ends (a : Attempt) (t : Session) : Prop where
  sound : Sound t
  id : a.id ≤ t.nextAttempt
  keeps : ∀ b, t.attempt = some b → b.id = a.id → Keeps a b

theorem ends_step {t t' : Session} (he : a.ending.isSome = true) (h : Ends a t) (hu : Undisturbed crypto t turn)
    (ht : t.step crypto turn = some t') : Ends a t' := by
  have hturn := Session.step_turned ht
  refine ⟨sound_step h.sound ht, Nat.le_trans h.id (next_le_of_turned hturn), fun b' hb' hid => ?_⟩
  cases hturn with
  | closes attempt =>
    rw [attempt] at hb'
    cases hb'
  | fresh b attempt hb =>
    rw [hb'] at attempt
    cases attempt
    have := h.id
    omega
  | follows hf =>
    obtain ⟨b, hb, hg⟩ := hf.attempt b' hb'
    have hk := h.keeps b hb (hg.id.symm.trans hid)
    rcases step_lets h.sound hb (by rw [hk.ending]; exact he) hu ht b' hb' with hk' | hnext
    · exact ⟨hid, hk'.ending.trans hk.ending, hk'.deadline.trans hk.deadline, hk'.shown.trans hk.shown⟩
    · have := h.id
      omega

/-- **An attempt that has started ending ends.**  Its deadline is the wait of that ending away, and along every run in
which the ceremony takes each request the peer still sends it, nothing changes how it ends or moves its deadline: it is
gone, or the loop lets it go as soon as the deadline has come. -/
theorem ending_ends (crypto : Crypto) (codeTimeoutForPeer : Option Nat) (localKey : PublicKey) (start : Nat)
    {pre post : List Turn} {turn : Turn} {s s' t : Session} {a : Attempt} {k : Ending}
    (hpre : run (Session.step crypto) (.opened codeTimeoutForPeer localKey start) pre = some s)
    (hs : s.step crypto turn = some s') (ha : s'.attempt = some a) (hk : a.ending = some k)
    (hnew : ∀ b, s.attempt = some b → b.id = a.id → b.ending = none)
    (hu : Along (Session.step crypto) (Undisturbed crypto) s' post)
    (ht : run (Session.step crypto) s' post = some t) :
    a.deadline = turn.later + wait a k ∧
      ∀ b, t.attempt = some b → b.id = a.id → Keeps a b ∧ ∀ now later, a.deadline ≤ now →
        t.step crypto ⟨now, later, .deadline⟩ = some { t with attempt := none } := by
  have hsound : Sound s := run_inv Sound (fun _ _ _ => sound_step) pre _ s (sound_opened _ _ _) hpre
  have hsound' := sound_step hsound hs
  have hends : Ends a s' := ⟨hsound', hsound'.id a ha, fun b hb _ => by
    rw [ha] at hb
    cases hb
    exact .refl a⟩
  have he : a.ending.isSome = true := by rw [hk]; rfl
  have hends := along_inv (Ends a) (Undisturbed crypto) (fun _ _ _ => ends_step he) post s' t hends hu ht
  refine ⟨(deadline_of_ends hs ha hk hnew).1, fun b hb hid => ?_⟩
  have hkeeps := hends.keeps b hb hid
  refine ⟨hkeeps, fun now later hle => ?_⟩
  have hclosed : t.closed = false := by
    by_contra hc
    rw [hends.sound.closed (Bool.not_eq_false _ ▸ hc)] at hb
    cases hb
  have hending : b.ending.isSome = true := by rw [hkeeps.ending]; exact he
  have hdue : b.deadline ≤ now := by rw [hkeeps.deadline]; exact hle
  simp [Session.step, hb, hclosed, Session.deadline, hending, hdue]

/-! ## Two endings -/

def sampleConnection (localByte peerByte : UInt8) : Connection :=
  ⟨sampleKey localByte, sampleKey peerByte, sampleKey (localByte + 2), sampleKey (peerByte + 2),
    ⟨"peer", sampleKey peerByte⟩⟩

/-- An initiator whose own confirmation is out. -/
def confirmedFirst : List Turn :=
  [⟨0, 0, .pair (.address "peer.local")⟩,
    ⟨1, 1, .tagged 1 (.connected (.ok (sampleConnection 1 2)) (some (sampleNonce 5)))⟩,
    ⟨2, 2, .tagged 1 (.answered .start (some (.prompted (some ⟨120000, (sampleNonce 6).val⟩))) false)⟩,
    ⟨3, 3, .tagged 1 (.answered .reveal (some .revealed) false)⟩, ⟨4, 4, .confirm (.saved "peer")⟩]

/-- The peer's confirmation, which saves it. -/
def peerConfirms : Turn := ⟨5, 5, .tagged 1 (.request .pairConfirm none (.saved "peer"))⟩

/-- A responder that connects and starts no ceremony. -/
def silentPeer : List Turn :=
  [⟨0, 0, .incoming⟩, ⟨1, 1, .tagged 1 (.connected (.ok (sampleConnection 2 1)) none)⟩]

def setupEnds : Turn := ⟨setupTimeout, setupTimeout, .deadline⟩

/-- The ceremony starts on the attempt that its setup deadline has ended. -/
def lateStart : Turn :=
  ⟨setupTimeout + 1, setupTimeout + 1,
    .tagged 1 (.request (.pairStart (some ⟨(sampleCrypto.sha256 []).val⟩)) (some (sampleNonce 6)) (.lost ""))⟩

/-- What still comes while the paired attempt ends, the peer's confirmation once more among it. -/
def afterwards : List Turn :=
  [⟨6, 6, .cancel⟩, ⟨7, 7, .tagged 1 (.notification (.pairAbort none))⟩,
    ⟨8, 8, .tagged 1 (.request .pairConfirm none (.saved "peer"))⟩, ⟨9, 9, .tagged 1 (.request .other none (.lost ""))⟩]

theorem ending_ends_paired :
    ∃ s s' t a b, run (Session.step sampleCrypto) (.opened none (sampleKey 1) 0) confirmedFirst = some s ∧
      s.step sampleCrypto peerConfirms = some s' ∧ s'.attempt = some a ∧
      run (Session.step sampleCrypto) s' afterwards = some t ∧ a.deadline = 5 + wait a .paired ∧
      t.attempt = some b ∧ Keeps a b ∧
      t.step sampleCrypto ⟨a.deadline, a.deadline, .deadline⟩ = some { t with attempt := none } := by
  have h := @ending_ends sampleCrypto none (sampleKey 1) 0 confirmedFirst afterwards peerConfirms _ _ _ _ .paired rfl rfl
    rfl rfl (fun b hb _ => by cases hb; rfl) ?_ rfl
  · refine ⟨_, _, _, _, _, rfl, rfl, rfl, rfl, h.1, rfl, (h.2 _ rfl rfl).1, ?_⟩
    exact (h.2 _ rfl rfl).2 _ _ (Nat.le_refl _)
  · refine along_cons rfl trivial (along_cons rfl trivial (along_cons rfl ?_ (along_cons rfl ?_ trivial)))
    · rintro _ ⟨⟩ - - _ ⟨⟩
      exact ⟨nofun, .inl rfl⟩
    · rintro _ ⟨⟩ - - _ ⟨⟩
      exact ⟨nofun, nofun⟩

/-- **Not every ending is over within the linger, and not every one keeps its deadline.**  A paired attempt whose own
confirmation is out waits for its answer; and a `PairStart` that comes late shows the attempt again for as long as a
code is valid. -/
theorem ending_outlasts_linger :
    (∃ s s' a, run (Session.step sampleCrypto) (.opened none (sampleKey 1) 0) confirmedFirst = some s ∧
      s.step sampleCrypto peerConfirms = some s' ∧ s'.attempt = some a ∧ a.ending = some .paired ∧
      peerConfirms.later + linger < a.deadline ∧
      s'.step sampleCrypto ⟨peerConfirms.later + linger, peerConfirms.later + linger, .deadline⟩ = none) ∧
    ∃ s s' t a b, run (Session.step sampleCrypto) (.opened none (sampleKey 2) 0) silentPeer = some s ∧
      s.step sampleCrypto setupEnds = some s' ∧ s'.attempt = some a ∧ a.ending = some .flushing ∧
      s'.step sampleCrypto lateStart = some t ∧ t.attempt = some b ∧ b.id = a.id ∧
      a.deadline + 60 * linger ≤ b.deadline + linger ∧ b.shown = true := by
  refine ⟨⟨_, _, _, rfl, rfl, rfl, rfl, by decide, by decide⟩, _, _, _, _, _, rfl, rfl, rfl, rfl, rfl, rfl, rfl, ?_,
    rfl⟩
  decide

end Driver
end Flow
end OpenLogi
