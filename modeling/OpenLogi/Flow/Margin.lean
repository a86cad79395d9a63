import OpenLogi.Flow.Window
/-!
# Margin — every write starts while the receiver still expects its device

The sender counts half of the announced window from its request; the receiver counts the whole from the moment it arms,
which is later.  The invariant carries this margin through every order of deliveries, and with it that a cancel and a
write exclude each other.
-/
namespace OpenLogi
namespace Flow
namespace Handoff

open OpenLogi.Scroll (F64 plainRationals)
open Sender (Negotiation HandoffCancel HandoffCancelReason SwitchSchedule)

variable {F : Type}

/-- The receiver armed this transfer at `t`. -/
def ArmedAt (log : List (Record F)) (transfer : Transfer) (t : Nat) : Prop :=
  ∃ r ∈ log, r.arms = some transfer ∧ r.call.now = some t

/-- The receiver had armed this transfer by `now`. -/
def ArmedBy (log : List (Record F)) (transfer : Transfer) (now : Nat) : Prop := ∃ t ≤ now, ArmedAt log transfer t

variable {log log' : List (Record F)} {transfer : Transfer} {now now' : Nat} {peer : PublicKey} {s : System F}

theorem ArmedBy.mono (h : ArmedBy log transfer now) (hlog : log ⊆ log') (hnow : now ≤ now') :
    ArmedBy log' transfer now' := by
  obtain ⟨t, ht, r, hr, harms, hcall⟩ := h
  exact ⟨t, ht.trans hnow, r, hlog hr, harms, hcall⟩

/-! ## One negotiation -/

/-- The write deadline leaves half of the receiver's window, which is open. -/
def Margin (log : List (Record F)) (transfer : Transfer) (now requestedAt : Nat) (schedule : SwitchSchedule) : Prop :=
  schedule.writeDeadline ≤ requestedAt + armTimeout / 2 ∧ ArmedBy log transfer now

/-- What holds at each stage of a negotiation. -/
def StageKept (log : List (Record F)) (transfer : Transfer) (now requestedAt : Nat) (writes : List Nat) :
    Sender.Stage → Prop
  | .requested => writes = []
  | .switching schedule _ outcomes _ =>
    Margin log transfer now requestedAt schedule ∧ (writes ≠ [] → ∃ outcome ∈ outcomes, outcome ≠ .notWritten)
  | .writing schedule _ _ _ => Margin log transfer now requestedAt schedule
  | .awaiting _ | .ended _ => True

/-- What holds of one negotiation. -/
structure Kept (log : List (Record F)) (peer : PublicKey) (now : Nat) (transferId : UInt64) (n : Negotiation F) :
    Prop where
  named : n.transferId = transferId
  asked : n.requestedAt ≤ now
  writes : ∀ t ∈ n.writes, t < n.requestedAt + armTimeout / 2 ∧ ArmedBy log (peer, transferId) t
  stage : StageKept log (peer, transferId) now n.requestedAt n.writes n.stage

theorem Margin.mono {requestedAt : Nat} {schedule : SwitchSchedule} (h : Margin log transfer now requestedAt schedule)
    (hlog : log ⊆ log') (hnow : now ≤ now') : Margin log' transfer now' requestedAt schedule :=
  ⟨h.1, h.2.mono hlog hnow⟩

theorem StageKept.mono {requestedAt : Nat} {writes : List Nat} {stage : Sender.Stage}
    (h : StageKept log transfer now requestedAt writes stage) (hlog : log ⊆ log') (hnow : now ≤ now') :
    StageKept log' transfer now' requestedAt writes stage := by
  cases stage with
  | requested => exact h
  | switching => exact ⟨Margin.mono h.1 hlog hnow, h.2⟩
  | writing => exact Margin.mono h hlog hnow
  | awaiting => trivial
  | ended => trivial

theorem Kept.mono {transferId : UInt64} {n : Negotiation F} (h : Kept log peer now transferId n) (hlog : log ⊆ log')
    (hnow : now ≤ now') :
    Kept log' peer now' transferId n :=
  ⟨h.named, h.asked.trans hnow, fun t ht => ⟨(h.writes t ht).1, (h.writes t ht).2.mono hlog le_rfl⟩,
    h.stage.mono hlog hnow⟩

/-- What a step of a negotiation does: what ended stays ended, and only a negotiation that ends with no write sends a
cancel. -/
structure Advances (n n' : Negotiation F) (cancels : List HandoffCancel) : Prop where
  requestedAt : n'.requestedAt = n.requestedAt
  writes : n.writes ⊆ n'.writes
  cancels : ∀ c ∈ cancels, c.transferId = n.transferId ∧ n'.writes = [] ∧ ∃ report, n'.stage = .ended report
  ended : ∀ report, n.stage = .ended report → n'.stage = .ended report ∧ n'.writes = n.writes

variable {log : List (Record F)} {peer : PublicKey} {now : Nat} {transferId : UInt64} {n n' : Negotiation F}
  {cancels : List HandoffCancel}

/-- Ending with no write, and a cancel. -/
theorem cancel_kept (h : Kept log peer now transferId n) (hwrites : n.writes = []) (reason : HandoffCancelReason)
    (hstage : ∀ report, n.stage ≠ .ended report) :
    Kept log peer now transferId (n.cancel reason).1 ∧ Advances n (n.cancel reason).1 (n.cancel reason).2 := by
  refine ⟨⟨h.named, h.asked, h.writes, trivial⟩, rfl, List.Subset.refl _, fun c hc => ?_,
    fun report he => absurd he (hstage report)⟩
  rw [List.mem_singleton.1 hc]
  exact ⟨rfl, hwrites, _, rfl⟩

/-- Another stage, and no cancel. -/
theorem stage_kept (h : Kept log peer now transferId n) {stage : Sender.Stage}
    (hkept : StageKept log (peer, transferId) now n.requestedAt n.writes stage)
    (hstage : ∀ report, n.stage ≠ .ended report) :
    Kept log peer now transferId { n with stage } ∧ Advances n { n with stage } [] :=
  ⟨⟨h.named, h.asked, h.writes, hkept⟩, rfl, List.Subset.refl _, fun _ hc => (by cases hc),
    fun report he => absurd he (hstage report)⟩

/-- **An answer opens a write window only inside the receiver's.** -/
theorem answered_kept (h : Kept log peer now transferId n) {answer : Except Unit Sender.Answer}
    (hanswer : ∀ accept, answer = .ok (.accept accept) → accept.armTimeoutMs.toNat * millis ≤ armTimeout ∧
      (accept.armTimeoutMs ≠ 0 → ArmedBy log (peer, accept.transferId) now))
    (hs : n.answered answer now = some (n', cancels)) :
    Kept log peer now transferId n' ∧ Advances n n' cancels := by
  have hkept := h.stage
  unfold Negotiation.answered at hs
  split at hs
  · rename_i hstage
    have hnot : ∀ report, n.stage ≠ .ended report := fun report he => by rw [hstage] at he; cases he
    have hwrites : n.writes = [] := by
      rw [hstage] at hkept
      exact hkept
    split at hs
    · rename_i accept
      split at hs
      · rename_i hid
        split at hs
        · obtain ⟨rfl, rfl⟩ := Prod.mk.inj (Option.some.inj hs)
          exact stage_kept h trivial hnot
        · rename_i hopen
          obtain ⟨rfl, rfl⟩ := Prod.mk.inj (Option.some.inj hs)
          obtain ⟨hwindow, harmed⟩ := hanswer accept rfl
          rw [hid, h.named] at harmed
          exact stage_kept h ⟨⟨Sender.writeDeadline_le hwindow, harmed hopen⟩, fun hw => absurd hwrites hw⟩ hnot
      · obtain ⟨rfl, rfl⟩ := Prod.mk.inj (Option.some.inj hs)
        exact cancel_kept h hwrites _ hnot
    · obtain ⟨rfl, rfl⟩ := Prod.mk.inj (Option.some.inj hs)
      exact stage_kept h trivial hnot
    · obtain ⟨rfl, rfl⟩ := Prod.mk.inj (Option.some.inj hs)
      exact cancel_kept h hwrites _ hnot
  · cases hs

/-- **A write starts before the deadline**, and a cancel goes out only if none did. -/
theorem proceed_kept (h : Kept log peer now transferId n) {stop allowsIo : Bool}
    (hs : n.proceed stop allowsIo now = some (n', cancels)) :
    Kept log peer now transferId n' ∧ Advances n n' cancels := by
  have hkept := h.stage
  unfold Negotiation.proceed at hs
  split at hs
  · rename_i schedule device left outcomes stopping hstage
    have hnot : ∀ report, n.stage ≠ .ended report := fun report he => by rw [hstage] at he; cases he
    rw [hstage] at hkept
    obtain ⟨hmargin, houtcomes⟩ := hkept
    simp only at hs
    split at hs
    · obtain ⟨rfl, rfl⟩ := Prod.mk.inj (Option.some.inj hs)
      refine stage_kept h ⟨hmargin, fun hw => ?_⟩ hnot
      obtain ⟨outcome, hmem, hne⟩ := houtcomes hw
      exact ⟨outcome, List.mem_append_left _ hmem, hne⟩
    · rename_i hgo
      obtain ⟨rfl, rfl⟩ := Prod.mk.inj (Option.some.inj hs)
      simp only [SwitchSchedule.mayWrite, Bool.or_eq_true, Bool.not_eq_true', not_or, decide_eq_false_iff_not,
        not_not] at hgo
      refine ⟨⟨h.named, h.asked, fun t ht => ?_, hmargin⟩, rfl, List.subset_append_left .., fun _ hc => (by cases hc),
        fun report he => absurd he (hnot report)⟩
      rcases List.mem_append.1 ht with ht | ht
      · exact h.writes t ht
      · rw [List.mem_singleton.1 ht]
        exact ⟨Nat.lt_of_lt_of_le hgo.2 hmargin.1, hmargin.2⟩
  · rename_i schedule outcomes stopping hstage
    have hnot : ∀ report, n.stage ≠ .ended report := fun report he => by rw [hstage] at he; cases he
    rw [hstage] at hkept
    obtain ⟨-, houtcomes⟩ := hkept
    split at hs
    · rename_i reason hcancel
      obtain ⟨rfl, rfl⟩ := Prod.mk.inj (Option.some.inj hs)
      refine cancel_kept h ?_ _ hnot
      by_contra hw
      obtain ⟨outcome, hmem, hne⟩ := houtcomes hw
      exact hne (Sender.afterSwitch_cancel hcancel outcome hmem)
    · split at hs
      · obtain ⟨rfl, rfl⟩ := Prod.mk.inj (Option.some.inj hs)
        exact stage_kept h trivial hnot
      · obtain ⟨rfl, rfl⟩ := Prod.mk.inj (Option.some.inj hs)
        exact stage_kept h trivial hnot
  · cases hs

theorem wrote_kept (h : Kept log peer now transferId n) {completed : Bool}
    (hs : n.wrote completed = some (n', cancels)) : Kept log peer now transferId n' ∧ Advances n n' cancels := by
  have hkept := h.stage
  unfold Negotiation.wrote at hs
  split at hs
  · rename_i schedule left outcomes stopping hstage
    have hnot : ∀ report, n.stage ≠ .ended report := fun report he => by rw [hstage] at he; cases he
    rw [hstage] at hkept
    obtain ⟨rfl, rfl⟩ := Prod.mk.inj (Option.some.inj hs)
    refine stage_kept h ⟨hkept, fun _ => ⟨_, List.mem_append_right _ (List.mem_singleton_self _), ?_⟩⟩ hnot
    cases completed <;> decide
  · cases hs

theorem awaitResult_kept (h : Kept log peer now transferId n) {stop : Bool}
    (hs : n.awaitResult stop now = some (n', cancels)) :
    Kept log peer now transferId n' ∧ Advances n n' cancels := by
  unfold Negotiation.awaitResult at hs
  split at hs
  · rename_i giveUp hstage
    have hnot : ∀ report, n.stage ≠ .ended report := fun report he => by rw [hstage] at he; cases he
    split at hs
    · obtain ⟨rfl, rfl⟩ := Prod.mk.inj (Option.some.inj hs)
      exact stage_kept h trivial hnot
    · split at hs
      · obtain ⟨rfl, rfl⟩ := Prod.mk.inj (Option.some.inj hs)
        exact stage_kept h trivial hnot
      · split at hs
        · obtain ⟨rfl, rfl⟩ := Prod.mk.inj (Option.some.inj hs)
          exact stage_kept h trivial hnot
        · cases hs
  · cases hs

theorem notified_kept (h : Kept log peer now transferId n) {result : HandoffResult}
    (hs : n.notified result = some (n', cancels)) : Kept log peer now transferId n' ∧ Advances n n' cancels := by
  unfold Negotiation.notified at hs
  split at hs
  · obtain ⟨rfl, rfl⟩ := Prod.mk.inj (Option.some.inj hs)
    exact ⟨⟨h.named, h.asked, h.writes, h.stage⟩, rfl, List.Subset.refl _, fun _ hc => (by cases hc),
      fun report he => ⟨he, rfl⟩⟩
  · cases hs

/-! ## The whole system -/

/-- When the sender asked for this transfer. -/
def System.requestedAt (s : System F) (transferId : UInt64) : Option Nat :=
  (s.transfers transferId).map Negotiation.requestedAt

/-- What holds in every state of a run. -/
structure Safe (peer : PublicKey) (s : System F) : Prop where
  negotiations : ∀ id n, s.transfers id = some n → Kept s.log peer s.now id n
  requests : ∀ request, .request request ∈ s.toReceiver → ∃ t, s.requestedAt request.transferId = some t
  cancels : ∀ c, .cancel c ∈ s.toReceiver →
    ∃ n report, s.transfers c.transferId = some n ∧ n.stage = .ended report ∧ n.writes = []
  accepts : ∀ accept, .accept accept ∈ s.toSender → accept.armTimeoutMs.toNat * millis ≤ armTimeout ∧
    (accept.armTimeoutMs ≠ 0 → ArmedBy s.log (peer, accept.transferId) s.now)
  windows : ∀ p ∈ s.ledger.pending, p.deadline ≤ s.now + armTimeout
  pending : ∀ p ∈ s.ledger.pending, p.peer = peer → ArmedBy s.log (peer, p.transferId) s.now ∧
    ∃ t, s.requestedAt p.transferId = some t ∧ t + armTimeout ≤ p.deadline
  replays : ∀ transfer done, s.ledger.completed transfer = some done → done.accept.armTimeoutMs = 0
  armed : ∀ id t, ArmedAt s.log (peer, id) t → ∃ t₀, s.requestedAt id = some t₀ ∧ t₀ ≤ t
  settled : ∀ r ∈ s.log, ∀ id outcome, r.settles = some ((peer, id), outcome) → outcome = .arrived ∨
    (∃ c, .cancel c ∈ s.toReceiver ∧ c.transferId = id) ∨
    outcome ≠ .cancelled ∧ ∃ t₀ t, s.requestedAt id = some t₀ ∧ r.call = .expire t ∧ t₀ + armTimeout ≤ t

theorem safe_start (peer : PublicKey) : Safe peer (System.start : System F) where
  negotiations _ _ h := by cases h
  requests _ h := by cases h
  cancels _ h := by cases h
  accepts _ h := by cases h
  windows _ h := by cases h
  pending _ h := by cases h
  replays _ _ h := by cases h
  armed _ _ h := by
    obtain ⟨r, hr, -⟩ := h
    cases hr
  settled _ h := by cases h

theorem safe_wait (h : Safe peer s) (hnow : s.now ≤ now) :
    Safe peer { s with now } where
  negotiations id n hn := (h.negotiations id n hn).mono (List.Subset.refl _) hnow
  requests := h.requests
  cancels := h.cancels
  accepts accept ha :=
    ⟨(h.accepts accept ha).1, fun hopen => ((h.accepts accept ha).2 hopen).mono (List.Subset.refl _) hnow⟩
  windows p hp := (h.windows p hp).trans (Nat.add_le_add_right hnow _)
  pending p hp hpeer := ⟨(h.pending p hp hpeer).1.mono (List.Subset.refl _) hnow, (h.pending p hp hpeer).2⟩
  replays := h.replays
  armed := h.armed
  settled := h.settled

/-- A change of the sender's side that forgets no request, sends no wrong cancel and keeps every negotiation. -/
theorem safe_sender (h : Safe peer s) {transfers : UInt64 → Option (Negotiation F)} {new : List (ToReceiver F)}
    (hasked : ∀ id t, s.requestedAt id = some t → (transfers id).map Negotiation.requestedAt = some t)
    (hkept : ∀ id n, transfers id = some n → Kept s.log peer s.now id n)
    (hrequests : ∀ request, .request request ∈ new → ∃ n, transfers request.transferId = some n)
    (hcancels : ∀ c, .cancel c ∈ s.toReceiver ++ new →
      ∃ n report, transfers c.transferId = some n ∧ n.stage = .ended report ∧ n.writes = []) :
    Safe peer { s with transfers, toReceiver := s.toReceiver ++ new } where
  negotiations := hkept
  requests request hr := by
    rcases List.mem_append.1 hr with hr | hr
    · obtain ⟨t, ht⟩ := h.requests request hr
      exact ⟨t, hasked _ t ht⟩
    · obtain ⟨n, hn⟩ := hrequests request hr
      exact ⟨n.requestedAt, congrArg (Option.map Negotiation.requestedAt) hn⟩
  cancels := hcancels
  accepts := h.accepts
  windows := h.windows
  pending p hp hpeer := by
    obtain ⟨harmed, t, ht, hdeadline⟩ := h.pending p hp hpeer
    exact ⟨harmed, t, hasked _ t ht, hdeadline⟩
  replays := h.replays
  armed id t ha := by
    obtain ⟨t₀, ht, hle⟩ := h.armed id t ha
    exact ⟨t₀, hasked _ t₀ ht, hle⟩
  settled r hr id outcome hs := by
    rcases h.settled r hr id outcome hs with harrived | ⟨c, hc, hid⟩ | ⟨hne, t₀, t, ht, hcall, hle⟩
    · exact .inl harrived
    · exact .inr (.inl ⟨c, List.mem_append_left _ hc, hid⟩)
    · exact .inr (.inr ⟨hne, t₀, t, hasked _ t₀ ht, hcall, hle⟩)

theorem safe_begin (h : Safe peer s) {request : HandoffRequest F} (hnew : s.transfers request.transferId = none) :
    Safe peer { s with
      transfers := Function.update s.transfers request.transferId (some (.new request s.now))
      toReceiver := s.toReceiver ++ [.request request] } := by
  have hother {id : UInt64} {n : Negotiation F} (hn : s.transfers id = some n) :
      Function.update s.transfers request.transferId (some (.new request s.now)) id = some n := by
    have hne : id ≠ request.transferId := fun he => by
      rw [he, hnew] at hn
      cases hn
    rw [Function.update_of_ne hne, hn]
  refine safe_sender h (fun id t ht => ?_) (fun id n hn => ?_) (fun r hr => ?_) fun c hc => ?_
  · obtain ⟨n, hn, rfl⟩ := Option.map_eq_some_iff.1 ht
    rw [hother hn]
    rfl
  · by_cases hid : id = request.transferId
    · subst hid
      rw [Function.update_self] at hn
      obtain rfl := Option.some.inj hn
      exact ⟨rfl, le_rfl, fun _ ht => (by cases ht), rfl⟩
    · rw [Function.update_of_ne hid] at hn
      exact h.negotiations id n hn
  · cases List.mem_singleton.1 hr
    exact ⟨_, Function.update_self ..⟩
  · rcases List.mem_append.1 hc with hc | hc
    · obtain ⟨n, report, hn, hended, hwrites⟩ := h.cancels c hc
      exact ⟨n, report, hother hn, hended, hwrites⟩
    · cases List.mem_singleton.1 hc

/-- **A step of one negotiation keeps the system safe.** -/
theorem safe_advance (h : Safe peer s) {transferId : UInt64} {n n' : Negotiation F} {cancels : List HandoffCancel}
    (hn : s.transfers transferId = some n) (hkept' : Kept s.log peer s.now transferId n')
    (hadvances : Advances n n' cancels) : Safe peer { s with
      transfers := Function.update s.transfers transferId (some n')
      toReceiver := s.toReceiver ++ cancels.map .cancel } := by
  have hkept := h.negotiations transferId n hn
  refine safe_sender h (fun id t ht => ?_) (fun id m hm => ?_) (fun r hr => ?_) fun c hc => ?_
  · by_cases hid : id = transferId
    · subst hid
      rw [System.requestedAt, hn] at ht
      rw [Function.update_self, Option.map_some, hadvances.requestedAt]
      exact ht
    · rw [Function.update_of_ne hid]
      exact ht
  · by_cases hid : id = transferId
    · subst hid
      rw [Function.update_self] at hm
      obtain rfl := Option.some.inj hm
      exact hkept'
    · rw [Function.update_of_ne hid] at hm
      exact h.negotiations id m hm
  · simp at hr
  · rcases List.mem_append.1 hc with hc | hc
    · obtain ⟨m, report, hm, hended, hwrites⟩ := h.cancels c hc
      by_cases hid : c.transferId = transferId
      · rw [hid, hn] at hm
        obtain rfl := Option.some.inj hm
        obtain ⟨hended', hwrites'⟩ := hadvances.ended report hended
        exact ⟨n', report, by rw [hid, Function.update_self], hended', hwrites'.trans hwrites⟩
      · exact ⟨m, report, by rw [Function.update_of_ne hid, hm], hended, hwrites⟩
    · obtain ⟨c', hc', he⟩ := List.mem_map.1 hc
      cases he
      obtain ⟨hid, hwrites, report, hended⟩ := hadvances.cancels c hc'
      rw [hkept.named] at hid
      exact ⟨n', report, by rw [hid, Function.update_self], hended, hwrites⟩

/-! ## The receiver's calls -/

theorem toMillis_le (duration : Nat) : (toMillis duration).toNat * millis ≤ duration := by
  have hle : (toMillis duration).toNat ≤ duration / millis := by
    rw [toMillis, UInt32.toNat_ofNat']
    exact (Nat.mod_le _ _).trans (Nat.min_le_left _ _)
  exact (Nat.mul_le_mul_right millis hle).trans (Nat.div_mul_le_self duration millis)

section
variable [F64 F] (enabled : Bool)

variable {call : Call F} {s s' : System F} {id : UInt64} {event : Event F}

/-- Only a request is answered with an accept. -/
theorem accept_of_reply {l : IncomingLedger F} {accept : HandoffAccept}
    (h : .accept accept ∈ replies peer (turn enabled l call)) :
    ∃ request devices now, call = .arm peer request devices now ∧
      .accept accept ∈ (l.arm peer request devices enabled now).1.replies := by
  have hresults {done : Option CompletedTransfer} (h : .accept accept ∈
      (done.filter fun done => done.peer = peer).toList.map fun done => ToSender.result done.result) : False := by
    obtain ⟨_, -, he⟩ := List.mem_map.1 h
    cases he
  cases call with
  | arm sender request devices now =>
    simp only [replies, turn, IncomingLedger.handle] at h
    split at h
    · rename_i hsender
      subst hsender
      exact ⟨request, devices, now, rfl, h⟩
    · cases h
  | observe devices now => exact (hresults h).elim
  | expire now => exact (hresults h).elim
  | cancel sender transferId => cases h

/-- **An accept announces no more than the whole window**, and an open one belongs to a transfer that is armed. -/
theorem accept_announces (h : Safe peer s) {request : HandoffRequest F} {devices : LocalDevices}
    {accept : HandoffAccept} (hreply : .accept accept ∈ (s.ledger.arm peer request devices enabled s.now).1.replies) :
    accept.armTimeoutMs.toNat * millis ≤ armTimeout ∧ (accept.armTimeoutMs ≠ 0 →
      (∃ p ∈ s.ledger.pending, p.transfer = (peer, accept.transferId)) ∨
      (turn enabled s.ledger (.arm peer request devices s.now)).arms = some (peer, accept.transferId)) := by
  by_cases hchecks : enabled = true ∧ request.wellFormed = true
  · obtain ⟨rfl, hwell⟩ := hchecks
    obtain ⟨entry, harm⟩ := s.ledger.arm_wellFormed peer devices s.now hwell
    cases hcompleted : s.ledger.completed (peer, request.transferId) with
    | some done =>
      simp only [hcompleted] at harm
      rw [harm] at hreply
      have hzero := h.replays _ _ hcompleted
      simp only [ArmDecision.replies, List.mem_cons, reduceCtorEq, false_or,
        ToSender.accept.injEq, List.not_mem_nil, or_false] at hreply
      subst hreply
      exact ⟨by rw [hzero]; exact Nat.le_of_lt (by decide), fun hopen => absurd hzero hopen⟩
    | none =>
      cases hpending : s.ledger.pending with
      | some p =>
        simp only [hcompleted, hpending] at harm
        rw [harm] at hreply
        split at hreply
        · rename_i hmine
          simp only [ArmDecision.replies, List.mem_singleton, ToSender.accept.injEq] at hreply
          subst hreply
          have hwindow := h.windows p hpending
          refine ⟨(toMillis_le _).trans (by omega), fun _ => .inl ⟨p, rfl, ?_⟩⟩
          rw [PendingIncoming.transfer, hmine.1, hmine.2]
          rfl
        · simp [ArmDecision.replies] at hreply
      | none =>
        cases hfound : matchDevices devices [] request.devices with
        | error e =>
          simp only [hcompleted, hpending, hfound] at harm
          rw [harm] at hreply
          simp [ArmDecision.replies] at hreply
        | ok found =>
          simp only [hcompleted, hpending, hfound] at harm
          rw [harm] at hreply
          simp only [ArmDecision.replies, List.mem_singleton, ToSender.accept.injEq] at hreply
          subst hreply
          refine ⟨toMillis_le _, fun _ => .inr ?_⟩
          simp only [turn, IncomingLedger.handle, harm, Record.arms]
          rfl
  · obtain ⟨reason, detail, harm⟩ := s.ledger.arm_malformed peer devices s.now hchecks
    rw [harm] at hreply
    simp [ArmDecision.replies] at hreply

variable [DecidableEq F]

omit [F64 F] [DecidableEq F] in
theorem asked (h : Safe peer s) {request : HandoffRequest F} (hr : .request request ∈ s.toReceiver) :
    ∃ t, s.requestedAt request.transferId = some t ∧ t ≤ s.now := by
  obtain ⟨t, ht⟩ := h.requests request hr
  obtain ⟨n, hn, rfl⟩ := Option.map_eq_some_iff.1 ht
  exact ⟨_, ht, (h.negotiations _ n hn).asked⟩

/-- A transfer of the sender that a call arms was asked for before, and its window opens now. -/
theorem armed_now (h : Safe peer s) (hallows : s.allows peer call = true)
    (harms : (turn enabled s.ledger call).arms = some (peer, id)) :
    (turn enabled s.ledger call).call.now = some s.now ∧ ∃ t, s.requestedAt id = some t ∧ t ≤ s.now := by
  cases turn_step enabled s.ledger call with
  | quiet harms' =>
    rw [harms'] at harms
    cases harms
  | settled _ _ _ harms' =>
    rw [harms'] at harms
    cases harms
  | armed sender request devices now entry found hcall harms' =>
    rw [harms'] at harms
    cases harms
    have hcall' : call = .arm peer request devices now := hcall
    rw [hcall'] at hallows
    simp only [System.allows, Bool.and_eq_true, decide_eq_true_eq, Bool.or_eq_true, ne_eq, not_true_eq_false,
      false_or, List.contains_iff_mem] at hallows
    obtain ⟨rfl, hr⟩ := hallows
    exact ⟨congrArg Call.now hcall, asked h hr⟩

/-- A transfer of the sender is finished by its arrivals, by a cancel that was sent, or by an expiry that comes a whole
window after the request. -/
theorem settled_now (h : Safe peer s) (hallows : s.allows peer call = true) {outcome : HandoffOutcome}
    (hs : (turn enabled s.ledger call).settles = some ((peer, id), outcome)) :
    outcome = .arrived ∨ (∃ c, .cancel c ∈ s.toReceiver ∧ c.transferId = id) ∨ outcome ≠ .cancelled ∧
      ∃ t₀ t, s.requestedAt id = some t₀ ∧ (turn enabled s.ledger call).call = .expire t ∧ t₀ + armTimeout ≤ t := by
  cases turn_step enabled s.ledger call with
  | quiet _ hs' =>
    rw [hs'] at hs
    cases hs
  | armed _ _ _ _ _ _ _ _ hs' =>
    rw [hs'] at hs
    cases hs
  | settled p outcome' hp harms hs' hreports hafter hdecided =>
    rw [hs'] at hs
    obtain ⟨htransfer, rfl⟩ := Prod.mk.inj (Option.some.inj hs)
    have hpeer : p.peer = peer := congrArg Prod.fst htransfer
    have hid : p.transferId = id := congrArg Prod.snd htransfer
    obtain ⟨-, t₀, ht₀, hdeadline⟩ := h.pending p hp hpeer
    rw [hid] at ht₀
    have hcall : (turn enabled s.ledger call).call = call := rfl
    rw [hcall] at hdecided
    cases hdecided with
    | arrived => exact .inl rfl
    | partialArrival t hdue => exact .inr (.inr ⟨by decide, t₀, t, ht₀, rfl, hdeadline.trans hdue⟩)
    | timeout t hdue => exact .inr (.inr ⟨by decide, t₀, t, ht₀, rfl, hdeadline.trans hdue⟩)
    | cancelled =>
      simp only [System.allows, hpeer, ne_eq, not_true_eq_false, decide_false, Bool.false_or,
        List.any_eq_true] at hallows
      obtain ⟨m, hm, hcancels⟩ := hallows
      cases m with
      | request => cases hcancels
      | cancel c => exact .inr (.inl ⟨c, hm, by simpa [ToReceiver.cancels, hid] using hcancels⟩)

/-- What the ledger waits for after a call: what it waited for, or the transfer the call armed. -/
theorem pending_now {p : PendingIncoming F} (hallows : s.allows peer call = true)
    (hp : (turn enabled s.ledger call).after.pending = some p) :
    (∃ p₀ ∈ s.ledger.pending, p.transfer = p₀.transfer ∧ p.deadline = p₀.deadline) ∨
    ((turn enabled s.ledger call).arms = some p.transfer ∧ p.deadline = s.now + armTimeout) := by
  cases turn_step enabled s.ledger call with
  | quiet _ _ hafter =>
    rw [hafter] at hp
    obtain ⟨p₀, hp₀, rfl⟩ := Option.map_eq_some_iff.1 hp
    exact .inl ⟨p₀, hp₀, through_transfer _ _, through_deadline _ _⟩
  | armed sender request devices now entry found hcall harms _ _ _ _ _ _ hafter =>
    rw [hafter] at hp
    obtain rfl := Option.some.inj hp
    have hcall' : call = .arm sender request devices now := hcall
    rw [hcall'] at hallows
    simp only [System.allows, Bool.and_eq_true, decide_eq_true_eq] at hallows
    exact .inr ⟨harms, congrArg (· + armTimeout) hallows.1⟩
  | settled _ _ _ _ _ _ hafter =>
    rw [hafter, IncomingLedger.finish_pending] at hp
    cases hp

omit [DecidableEq F] in
/-- A finished transfer is remembered with an accept that opens no window. -/
theorem replays_now (h : Safe peer s) {transfer : Transfer} {done : CompletedIncoming}
    (hdone : (turn enabled s.ledger call).after.completed transfer = some done) : done.accept.armTimeoutMs = 0 := by
  cases turn_step enabled s.ledger call with
  | quiet _ _ hafter =>
    rw [hafter] at hdone
    exact h.replays transfer done hdone
  | armed _ _ _ _ _ _ _ _ _ _ _ _ _ _ hafter =>
    rw [hafter] at hdone
    exact h.replays transfer done hdone
  | settled p outcome _ _ _ _ hafter =>
    have hmemory : (turn enabled s.ledger call).after.memory.entries transfer = some done := hdone
    rw [hafter, IncomingLedger.finish_memory] at hmemory
    rcases Lib.Memory.remember_some hmemory with hold | rfl
    · exact h.replays transfer done hold
    · rfl

/-- **A call of the receiver's ledger keeps the system safe.** -/
theorem safe_receive (h : Safe peer s) (hallows : s.allows peer call = true) :
    Safe peer { s with
      ledger := (turn enabled s.ledger call).after
      toSender := s.toSender ++ replies peer (turn enabled s.ledger call)
      log := s.log ++ [turn enabled s.ledger call] } where
  negotiations id n hn := (h.negotiations id n hn).mono (List.subset_append_left ..) le_rfl
  requests := h.requests
  cancels := h.cancels
  accepts accept ha := by
    have hgrows : s.log ⊆ s.log ++ [turn enabled s.ledger call] := List.subset_append_left ..
    rcases List.mem_append.1 ha with ha | ha
    · exact ⟨(h.accepts accept ha).1, fun hopen => ((h.accepts accept ha).2 hopen).mono hgrows le_rfl⟩
    · obtain ⟨request, devices, now, rfl, hreply⟩ := accept_of_reply enabled ha
      obtain rfl : now = s.now := by
        simp only [System.allows, Bool.and_eq_true, decide_eq_true_eq] at hallows
        exact hallows.1
      obtain ⟨hwindow, hopen⟩ := accept_announces enabled h hreply
      refine ⟨hwindow, fun hne => ?_⟩
      rcases hopen hne with ⟨p, hp, htransfer⟩ | harms
      · have hpeer : p.peer = peer := congrArg Prod.fst htransfer
        have hid : p.transferId = accept.transferId := congrArg Prod.snd htransfer
        exact hid ▸ (h.pending p hp hpeer).1.mono hgrows le_rfl
      · exact ⟨s.now, le_rfl, _, List.mem_append_right _ (List.mem_singleton_self _), harms, rfl⟩
  windows p hp := by
    rcases pending_now enabled hallows hp with ⟨p₀, hp₀, -, hdeadline⟩ | ⟨-, hdeadline⟩
    · exact hdeadline.le.trans (h.windows p₀ hp₀)
    · exact hdeadline.le
  pending p hp hpeer := by
    rcases pending_now enabled hallows hp with ⟨p₀, hp₀, htransfer, hdeadline⟩ | ⟨harms, hdeadline⟩
    · have hpeer₀ : p₀.peer = peer := (congrArg Prod.fst htransfer).symm.trans hpeer
      have hid : p.transferId = p₀.transferId := congrArg Prod.snd htransfer
      obtain ⟨harmed, t, ht, hle⟩ := h.pending p₀ hp₀ hpeer₀
      rw [hid, hdeadline]
      exact ⟨harmed.mono (List.subset_append_left ..) le_rfl, t, ht, hle⟩
    · have harms : (turn enabled s.ledger call).arms = some (peer, p.transferId) := by
        rw [harms, PendingIncoming.transfer, hpeer]
      obtain ⟨hnow, t, ht, hle⟩ := armed_now enabled h hallows harms
      refine ⟨⟨s.now, le_rfl, _, List.mem_append_right _ (List.mem_singleton_self _), harms, hnow⟩, t, ht, ?_⟩
      rw [hdeadline]
      exact Nat.add_le_add_right hle _
  replays transfer done hdone := replays_now enabled h hdone
  armed id t ha := by
    obtain ⟨r, hr, harms, hcall⟩ := ha
    rcases List.mem_append.1 hr with hr | hr
    · exact h.armed id t ⟨r, hr, harms, hcall⟩
    · rw [List.mem_singleton.1 hr] at harms hcall
      obtain ⟨hnow, t₀, ht₀, hle⟩ := armed_now enabled h hallows harms
      rw [hnow] at hcall
      obtain rfl := Option.some.inj hcall
      exact ⟨t₀, ht₀, hle⟩
  settled r hr id outcome hs := by
    rcases List.mem_append.1 hr with hr | hr
    · exact h.settled r hr id outcome hs
    · rw [List.mem_singleton.1 hr] at hs ⊢
      exact settled_now enabled h hallows hs

/-- What one step does: time passes, a transfer starts, one negotiation advances, or the ledger is called. -/
inductive Moves (peer : PublicKey) (s : System F) : System F → Prop where
  | waited (now : Nat) (hnow : s.now ≤ now) : Moves peer s { s with now }
  | began (request : HandoffRequest F) (hnew : s.transfers request.transferId = none) : Moves peer s { s with
      transfers := Function.update s.transfers request.transferId (some (.new request s.now))
      toReceiver := s.toReceiver ++ [.request request] }
  | advanced (transferId : UInt64) (n n' : Negotiation F) (cancels : List HandoffCancel)
    (hn : s.transfers transferId = some n) (hkept : Kept s.log peer s.now transferId n')
    (hadvances : Advances n n' cancels) : Moves peer s { s with
      transfers := Function.update s.transfers transferId (some n')
      toReceiver := s.toReceiver ++ cancels.map .cancel }
  | received (call : Call F) (hallows : s.allows peer call = true) : Moves peer s { s with
      ledger := (turn enabled s.ledger call).after
      toSender := s.toSender ++ replies peer (turn enabled s.ledger call)
      log := s.log ++ [turn enabled s.ledger call] }

omit [DecidableEq F] [F64 F] in
theorem advance_some {transferId : UInt64} {f : Negotiation F → Option (Negotiation F × List HandoffCancel)}
    (hs : s.advance transferId f = some s') :
    ∃ n n' cancels, s.transfers transferId = some n ∧ f n = some (n', cancels) ∧ s' = { s with
      transfers := Function.update s.transfers transferId (some n')
      toReceiver := s.toReceiver ++ cancels.map .cancel } := by
  obtain ⟨n, hn, hs⟩ := Option.bind_eq_some_iff.1 hs
  obtain ⟨⟨n', cancels⟩, hstep, rfl⟩ := Option.map_eq_some_iff.1 hs
  exact ⟨n, n', cancels, hn, hstep, rfl⟩

/-- **Every step is one of four.** -/
theorem step_moves (h : Safe peer s) (hs : s.step peer enabled event = some s') :
    Moves enabled peer s s' := by
  have hadvance {transferId : UInt64} {f : Negotiation F → Option (Negotiation F × List HandoffCancel)}
      (hf : ∀ n n' cancels, Kept s.log peer s.now transferId n → f n = some (n', cancels) →
        Kept s.log peer s.now transferId n' ∧ Advances n n' cancels)
      (hs : s.advance transferId f = some s') : Moves enabled peer s s' := by
    obtain ⟨n, n', cancels, hn, hstep, rfl⟩ := advance_some hs
    obtain ⟨hkept, hadvances⟩ := hf n n' cancels (h.negotiations transferId n hn) hstep
    exact .advanced transferId n n' cancels hn hkept hadvances
  cases event with
  | wait now =>
    simp only [System.step] at hs
    split at hs
    · rename_i hnow
      obtain rfl := Option.some.inj hs
      exact .waited now hnow
    · cases hs
  | begin request =>
    simp only [System.step] at hs
    split at hs
    · cases hs
    · rename_i hnew
      obtain rfl := Option.some.inj hs
      exact .began request hnew
  | answer transferId answer =>
    simp only [System.step] at hs
    split at hs
    · rename_i hcan
      refine hadvance (fun n n' cancels hkept hstep => answered_kept hkept (fun accept ha => ?_) hstep) hs
      rw [ha] at hcan
      exact h.accepts accept (by simpa [System.canAnswer] using hcan)
    · cases hs
  | proceed transferId stop allowsIo => exact hadvance (fun n n' cancels hkept hstep => proceed_kept hkept hstep) hs
  | wrote transferId completed => exact hadvance (fun n n' cancels hkept hstep => wrote_kept hkept hstep) hs
  | awaitResult transferId stop => exact hadvance (fun n n' cancels hkept hstep => awaitResult_kept hkept hstep) hs
  | notified result =>
    simp only [System.step] at hs
    split at hs
    · exact hadvance (fun n n' cancels hkept hstep => notified_kept hkept hstep) hs
    · cases hs
  | receive call =>
    simp only [System.step] at hs
    split at hs
    · rename_i hallows
      obtain rfl := Option.some.inj hs
      exact .received call hallows
    · cases hs

/-- **Every step keeps the system safe.** -/
theorem safe_step (h : Safe peer s) (hs : s.step peer enabled event = some s') :
    Safe peer s' := by
  cases step_moves enabled h hs with
  | waited now hnow => exact safe_wait h hnow
  | began request hnew => exact safe_begin h hnew
  | advanced transferId n n' cancels hn hkept hadvances => exact safe_advance h hn hkept hadvances
  | received call hallows => exact safe_receive enabled h hallows

/-- A write that was attempted stays attempted. -/
theorem writes_step (h : Safe peer s) (hs : s.step peer enabled event = some s') {n : Negotiation F}
    (hn : s.transfers id = some n) :
    ∃ n', s'.transfers id = some n' ∧ n.writes ⊆ n'.writes := by
  cases step_moves enabled h hs with
  | waited now hnow => exact ⟨n, hn, List.Subset.refl _⟩
  | began request hnew =>
    have hne : id ≠ request.transferId := fun he => by
      rw [he, hnew] at hn
      cases hn
    exact ⟨n, by rw [← hn]; exact Function.update_of_ne hne .., List.Subset.refl _⟩
  | advanced transferId m m' cancels hm hkept hadvances =>
    by_cases hid : id = transferId
    · subst hid
      rw [hm] at hn
      obtain rfl := Option.some.inj hn
      exact ⟨m', Function.update_self .., hadvances.writes⟩
    · exact ⟨n, by rw [← hn]; exact Function.update_of_ne hid .., List.Subset.refl _⟩
  | received call hallows => exact ⟨n, hn, List.Subset.refl _⟩

theorem safe_run {events : List (Event F)} (h : Safe peer s)
    (hrun : Lib.run (System.step peer enabled) s events = some s') : Safe peer s' :=
  Lib.run_inv (Safe peer) (fun _ _ _ h hs => safe_step enabled h hs) events s s' h hrun

theorem writes_run {events : List (Event F)} (h : Safe peer s)
    (hrun : Lib.run (System.step peer enabled) s events = some s') {n : Negotiation F} (hn : s.transfers id = some n) :
    ∃ n', s'.transfers id = some n' ∧ n.writes ⊆ n'.writes := by
  have hinv := Lib.run_inv (fun s => Safe peer s ∧ ∃ n', s.transfers id = some n' ∧ n.writes ⊆ n'.writes)
    (fun t _ t' ⟨hsafe, m, hm, hle⟩ hs => by
      obtain ⟨m', hm', hle'⟩ := writes_step enabled hsafe hs hm
      exact ⟨safe_step enabled hsafe hs, m', hm', fun x hx => hle' (hle hx)⟩)
    events s s' ⟨h, n, hn, List.Subset.refl _⟩ hrun
  exact hinv.2

/-- **A device leaves only for a computer that expects it.**  Once a write of a transfer was attempted, no cancel of it
is ever sent, before or after; the write started while the window the receiver armed was open, half of it still to come,
and no expiry had closed it; and the receiver never finishes the transfer as cancelled. -/
theorem handoff_window (peer : PublicKey) {before after : List (Event F)} {s s' : System F}
    (hbefore : Lib.run (System.step peer enabled) .start before = some s)
    (hafter : Lib.run (System.step peer enabled) s after = some s') {id : UInt64} {n : Negotiation F}
    (hn : s.transfers id = some n) {t : Nat} (hwrite : t ∈ n.writes) :
    (∀ reason, .cancel ⟨id, reason⟩ ∉ s'.toReceiver) ∧
    (ArmedBy s.log (peer, id) t ∧
      ∀ armedAt, ArmedAt s'.log (peer, id) armedAt → t + armTimeout / 2 < armedAt + armTimeout) ∧
    (∀ r ∈ s'.log, ∀ outcome, r.settles = some ((peer, id), outcome) →
      outcome = .arrived ∨ outcome ≠ .cancelled ∧ ∃ expiry, r.call = .expire expiry ∧ t + armTimeout / 2 < expiry) ∧
    ∀ r ∈ s'.log, r.settles ≠ some ((peer, id), .cancelled) := by
  have hsafe := safe_run enabled (safe_start peer) hbefore
  have hsafe' := safe_run enabled hsafe hafter
  obtain ⟨n', hn', hle⟩ := writes_run enabled hsafe hafter hn
  obtain ⟨hearly, -⟩ := (hsafe'.negotiations id n' hn').writes t (hle hwrite)
  have hasked : s'.requestedAt id = some n'.requestedAt := congrArg (Option.map Negotiation.requestedAt) hn'
  have hhalf : armTimeout / 2 + armTimeout / 2 = armTimeout := by decide
  -- a cancel is the end of a transfer with no write
  have hnocancel : ∀ c, .cancel c ∈ s'.toReceiver → c.transferId ≠ id := fun c hc he => by
    obtain ⟨m, report, hm, -, hnone⟩ := hsafe'.cancels c hc
    rw [he, hn'] at hm
    obtain rfl := Option.some.inj hm
    have hwrite' := hle hwrite
    rw [hnone] at hwrite'
    cases hwrite'
  have hsettled : ∀ r ∈ s'.log, ∀ outcome, r.settles = some ((peer, id), outcome) →
      outcome = .arrived ∨ outcome ≠ .cancelled ∧ ∃ expiry, r.call = .expire expiry ∧ t + armTimeout / 2 < expiry := by
    intro r hr outcome hs
    rcases hsafe'.settled r hr id outcome hs with harrived | ⟨c, hc, he⟩ | ⟨hne, t₀, expiry, ht₀, hcall, hdue⟩
    · exact .inl harrived
    · exact absurd he (hnocancel c hc)
    · rw [hasked] at ht₀
      obtain rfl := Option.some.inj ht₀
      exact .inr ⟨hne, expiry, hcall, by omega⟩
  refine ⟨fun reason hc => hnocancel _ hc rfl, ⟨((hsafe.negotiations id n hn).writes t hwrite).2, fun armedAt ha => ?_⟩,
    hsettled, fun r hr hs => ?_⟩
  · obtain ⟨t₀, ht₀, hle₀⟩ := hsafe'.armed id armedAt ha
    rw [hasked] at ht₀
    obtain rfl := Option.some.inj ht₀
    omega
  · rcases hsettled r hr _ hs with h | ⟨hne, -⟩
    · cases h
    · exact hne rfl

end

/-! ## One mouse -/

attribute [local instance] plainRationals

/-- The request arrives after 100 ms, the accept after 200 ms, and the mouse's write starts at 300 ms. -/
def sampleWrite : List (Event ℚ) :=
  [.begin sampleRequest, .wait (100 * millis),
    .receive (.arm (sampleKey 1) sampleRequest (sampleMouse false) (100 * millis)), .wait (200 * millis),
    .answer 7 (.ok (.accept (accept 7 armTimeout))), .wait (300 * millis), .proceed 7 false true]

/-- The request comes a second time, the mouse arrives, and the sender hears of it. -/
def sampleArrival : List (Event ℚ) :=
  [.receive (.arm (sampleKey 1) sampleRequest (sampleMouse false) (300 * millis)), .wait (400 * millis),
    .wrote 7 true, .proceed 7 false true, .receive (.observe (sampleMouse true) (400 * millis)),
    .notified ⟨7, .arrived, [⟨sampleIdentity, true, 300⟩]⟩, .awaitResult 7 false]

theorem handoff_window_mouse : ∃ s s' n, Lib.run (System.step (sampleKey 1) true) .start sampleWrite = some s ∧
    Lib.run (System.step (sampleKey 1) true) s sampleArrival = some s' ∧ s.transfers 7 = some n ∧
    n.writes = [300 * millis] ∧ (∀ reason, .cancel ⟨7, reason⟩ ∉ s'.toReceiver) ∧
    ∀ r ∈ s'.log, r.settles ≠ some ((sampleKey 1, 7), .cancelled) := by
  refine ⟨_, _, _, rfl, rfl, rfl, rfl, ?_⟩
  have hclaim := @handoff_window ℚ _ true _ (sampleKey 1) sampleWrite sampleArrival _ _ rfl rfl 7 _ rfl (300 * millis)
    (List.mem_singleton_self _)
  exact ⟨hclaim.1, hclaim.2.2.2⟩

end Handoff
end Flow
end OpenLogi
