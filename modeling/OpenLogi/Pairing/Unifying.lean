import OpenLogi.Pairing.Session
/-!
# Unifying — what ends a Unifying pairing session

A session is paired by a notification that says so, once the receiver confirmed its lock open, and every other end tells
the receiver to stop.
-/
namespace OpenLogi
namespace Pairing

open Hidpp

/-- The receiver's confirmation that its lock is open. -/
def ConfirmsLock (input : Input) : Prop :=
  ∃ msg, input = .notification (some msg) ∧ HidppMessage.notification msg = some (.unifyingLock true 0)

/-- A notification that a device is connected at `slot`, or that its pairing succeeded. -/
def Pairs (msg : HidppMessage) (slot : UInt8) : Prop :=
  HidppMessage.notification msg = some (.connected slot true) ∨
    HidppMessage.notification msg = some (.pairingSucceeded slot)

/-- A Unifying session that waits, after the inputs it took. -/
structure Waiting (s : Session) (taken : List Input) : Prop where
  phase : s.state = .unifyingOpening ∨ (s.state = .unifyingPairing ∧ ∃ input ∈ taken, ConfirmsLock input)
  unpaired : ∀ slot, .paired slot ∉ s.events
  writes : cancel .unifyingOpening ∉ s.writes

/-- How one input ends a session, if it does. -/
inductive Turned (s : Session) (taken : List Input) (input : Input) : Session × Ended → Prop where
  | waits (s' : Session) (h : Waiting s' (taken ++ [input])) : Turned s taken input (s', none)
  | pairs (msg : HidppMessage) (slot : UInt8) (hi : input = .notification (some msg)) (hp : Pairs msg slot)
    (hlock : HidppMessage.notification msg = some (.connected slot true) → ∃ input ∈ taken, ConfirmsLock input) :
    Turned s taken input (s.send (.paired slot), some (.ok ()))
  | fails (e : PairingError) : Turned s taken input (s, some (.error e))

variable {s : Session} {taken : List Input}

theorem Waiting.more (h : Waiting s taken) (input : Input) :
    Waiting s (taken ++ [input]) where
  phase := h.phase.imp_right fun ⟨hs, i, hi, hc⟩ => ⟨hs, i, List.mem_append_left _ hi, hc⟩
  unpaired := h.unpaired
  writes := h.writes

theorem Waiting.sent (h : Waiting s taken) {event : PairingEvent} (he : ∀ slot, event ≠ .paired slot) :
    Waiting (s.send event) taken where
  phase := h.phase
  unpaired slot hm := by
    rcases List.mem_append.1 hm with hm | hm
    · exact h.unpaired slot hm
    · exact he slot (List.mem_singleton.1 hm).symm
  writes := h.writes

theorem turned_notification (h : Waiting s taken) {msg : HidppMessage} {note : Notification}
    (hn : HidppMessage.notification msg = some note) :
    Turned s taken (.notification (some msg)) (s.onNotification note) := by
  have hmore := h.more (.notification (some msg))
  have hphase : s.state = .unifyingOpening ∨ s.state = .unifyingPairing := h.phase.imp_right And.left
  cases note with
  | discoveryInfo counter kind address authentication =>
    rcases hphase with hs | hs <;> simp only [Session.onNotification, hs] <;> exact .waits s hmore
  | discoveryName counter name =>
    rcases hphase with hs | hs <;> simp only [Session.onNotification, hs] <;> exact .waits s hmore
  | pairingSucceeded slot => exact .pairs msg slot rfl (.inr hn) fun h => by rw [hn] at h; cases h
  | pairingError code => exact .fails _
  | passkey digits value => exact .waits _ (hmore.sent fun slot hc => by cases hc)
  | malformedPasskey => exact .fails _
  | connected slot established =>
    rcases h.phase with hs | ⟨hs, hlock⟩
    · simp only [Session.onNotification, hs]
      exact .waits s hmore
    · cases established with
      | true =>
        simp only [Session.onNotification, hs]
        exact .pairs msg slot rfl (.inl hn) fun _ => hlock
      | false =>
        simp only [Session.onNotification, hs]
        exact .waits s hmore
  | unifyingLock isOpen error =>
    by_cases he : error = 0
    · subst he
      cases isOpen with
      | true =>
        rcases hphase with hs | hs
        · simp only [Session.onNotification, SessionState.unifyingLock, hs, ne_eq, not_true_eq_false, if_false, if_true]
          have hopened : Waiting { s with state := .unifyingPairing } (taken ++ [.notification (some msg)]) :=
            ⟨.inr ⟨rfl, _, List.mem_append_right _ (List.mem_singleton.2 rfl), msg, rfl, hn⟩, h.unpaired, h.writes⟩
          exact .waits _ (hopened.sent fun slot hc => by cases hc)
        · have hsame : ({ s with state := .unifyingPairing } : Session) = s := by rw [← hs]
          simp only [Session.onNotification, SessionState.unifyingLock, hs, ne_eq, not_true_eq_false, if_false,
            Bool.false_eq_true, hsame]
          exact .waits s hmore
      | false =>
        rcases hphase with hs | hs <;>
          simp only [Session.onNotification, SessionState.unifyingLock, hs, ne_eq, not_true_eq_false, if_false] <;>
          exact .fails _
    · simp only [Session.onNotification, SessionState.unifyingLock, ne_eq, he, not_false_eq_true, if_true]
      exact .fails _

/-- **One input**: the session waits on, is paired by a notification that says so, or fails. -/
theorem turned (h : Waiting s taken) (replies : Session.Replies) (input : Input) :
    Turned s taken input (s.turn replies input) := by
  have hmore := h.more input
  have hphase : s.state = .unifyingOpening ∨ s.state = .unifyingPairing := h.phase.imp_right And.left
  cases input with
  | deadline => exact .fails _
  | lockConfirmation =>
    rcases hphase with hs | hs <;> simp only [Session.turn, hs]
    · exact .fails _
    · exact .waits s hmore
  | command cmd =>
    cases cmd with
    | none => exact .fails _
    | some cmd =>
      cases cmd with
      | cancel => exact .fails _
      | pair device =>
        rcases hphase with hs | hs <;> simp only [Session.turn, SessionState.selectBoltDevice, hs] <;> exact .fails _
  | notification msg =>
    cases msg with
    | none => exact .fails _
    | some msg =>
      cases hn : HidppMessage.notification msg with
      | none =>
        simp only [Session.turn, hn]
        exact .waits s hmore
      | some note =>
        simp only [Session.turn, hn]
        exact turned_notification h hn

/-- How a session ended, told by the inputs it took. -/
inductive Outcome (inputs : List Input) : Session × Ended → Prop where
  | waits (s : Session) (h : Waiting s inputs) : Outcome inputs (s, none)
  | pairs (s : Session) (pre : List Input) (msg : HidppMessage) (slot : UInt8) (post : List Input)
    (hw : Waiting s pre) (hi : inputs = pre ++ .notification (some msg) :: post) (hp : Pairs msg slot)
    (hlock : HidppMessage.notification msg = some (.connected slot true) → ∃ input ∈ pre, ConfirmsLock input) :
    Outcome inputs (s.send (.paired slot), some (.ok ()))
  | fails (s : Session) (pre : List Input) (hw : Waiting s pre) (e : PairingError) :
    Outcome inputs (s, some (.error e))

theorem outcome_loop (replies : Session.Replies) : ∀ (inputs taken : List Input) (s : Session), Waiting s taken →
    Outcome (taken ++ inputs) (s.loop replies inputs)
  | [], taken, s, h => by
    rw [List.append_nil]
    exact .waits s h
  | input :: inputs, taken, s, h => by
    have hsplit : taken ++ input :: inputs = (taken ++ [input]) ++ inputs := by simp
    unfold Session.loop
    cases hr : s.turn replies input with
    | mk s' ended =>
      have ht := turned h replies input
      rw [hr] at ht
      cases ht with
      | waits _ hw =>
        rw [hsplit]
        exact outcome_loop replies inputs (taken ++ [input]) s' hw
      | pairs msg slot hi hp hlock =>
        subst hi
        exact .pairs s taken msg slot inputs h rfl hp hlock
      | fails e => exact .fails s taken h e

theorem waiting_written (h : Waiting s taken) {w : RegisterWrite} (hw : w ≠ cancel .unifyingOpening) :
    Waiting (s.write w) taken where
  phase := h.phase
  unpaired := h.unpaired
  writes hm := by
    rcases List.mem_append.1 hm with hm | hm
    · exact h.writes hm
    · exact hw (List.mem_singleton.1 hm).symm

/-- **How a Unifying session ends**, up to its cancellation. -/
theorem outcome_drive (replies : Session.Replies) (found : UInt32) (inputs : List Input) :
    Outcome inputs (Session.drive replies found ⟨.unifyingOpening, [], []⟩ inputs) := by
  have hstart : Waiting ⟨.unifyingOpening, [], []⟩ [] :=
    ⟨.inl rfl, fun _ h => (by cases h), fun h => (by cases h)⟩
  have hflags : Waiting
      (Session.write ⟨.unifyingOpening, [], []⟩ (notificationFlags (found ||| pairingNotifications))) [] :=
    waiting_written hstart fun h => absurd (congrArg RegisterWrite.address h) (by simp [notificationFlags, cancel,
      unifyingPairingRegister])
  have hopen := waiting_written hflags (w := ⟨unifyingPairingRegister, [0x01, 0x00, discoveryTimeout]⟩) (by decide)
  unfold Session.drive Session.setUp
  cases replies (Session.writes ⟨.unifyingOpening, [], []⟩).length with
  | error e => exact .fails _ [] hflags e
  | ok u =>
    simp only [Session.write, SessionState.opening]
    split
    · rename_i s result hr
      split at hr
      · cases hr
        exact .fails _ [] hopen _
      · cases hr
    · rename_i s hr
      split at hr
      · cases hr
      · cases hr
        exact outcome_loop replies inputs [] _ hopen

/-- **What a Unifying session reports and tells the receiver.**  It ends as paired only on a notification of that slot
that says so, a connection only once the receiver confirmed its lock open; so the device is new when no such
notification is of a device paired before.  Every other end tells the receiver to stop, and pairing itself does not. -/
theorem unifying_session_ends (replies : Session.Replies) (found : UInt32) (inputs : List Input) :
    (∀ slot, .paired slot ∈ (runSession replies .unifying found inputs).1.events →
      (runSession replies .unifying found inputs).2 = some (.ok ()) ∧
      ∃ pre msg post, inputs = pre ++ .notification (some msg) :: post ∧ Pairs msg slot ∧
        (HidppMessage.notification msg = some (.connected slot true) → ∃ input ∈ pre, ConfirmsLock input)) ∧
    (∀ known : UInt8 → Prop, (∀ msg slot, .notification (some msg) ∈ inputs → Pairs msg slot → ¬ known slot) →
      ∀ slot, .paired slot ∈ (runSession replies .unifying found inputs).1.events → ¬ known slot) ∧
    (∀ e, (runSession replies .unifying found inputs).2 = some (.error e) →
      (runSession replies .unifying found inputs).1.writes.getLast? =
        some ⟨unifyingPairingRegister, [0x02, 0x00, 0x00]⟩) ∧
    ((runSession replies .unifying found inputs).2 = some (.ok ()) →
      (∃ slot, .paired slot ∈ (runSession replies .unifying found inputs).1.events) ∧
      ⟨unifyingPairingRegister, [0x02, 0x00, 0x00]⟩ ∉ (runSession replies .unifying found inputs).1.writes) := by
  have hout := outcome_drive replies found inputs
  have hrun : runSession replies .unifying found inputs =
      finish (Session.drive replies found ⟨.unifyingOpening, [], []⟩ inputs) := rfl
  rw [hrun]
  generalize Session.drive replies found ⟨.unifyingOpening, [], []⟩ inputs = r at hout
  cases hout with
  | waits s hw =>
    exact ⟨fun slot h => absurd h (hw.unpaired slot), fun _ _ slot h => absurd h (hw.unpaired slot),
      fun e h => (by cases h), fun h => (by cases h)⟩
  | pairs s pre msg slot post hw hi hp hlock =>
    have heq : ∀ slot', PairingEvent.paired slot' ∈ (s.send (.paired slot)).events → slot' = slot := by
      intro slot' h
      rcases List.mem_append.1 h with h | h
      · exact absurd h (hw.unpaired slot')
      · exact PairingEvent.paired.inj (List.mem_singleton.1 h)
    have hmem : Input.notification (some msg) ∈ inputs := by
      rw [hi]
      exact List.mem_append_right _ List.mem_cons_self
    refine ⟨fun slot' h => ⟨rfl, pre, msg, post, hi, ?_⟩, fun known hk slot' h => ?_, fun e h => (by cases h),
      fun _ => ⟨⟨slot, List.mem_append_right _ (List.mem_singleton.2 rfl)⟩, hw.writes⟩⟩
    · rw [heq slot' h]
      exact ⟨hp, hlock⟩
    · rw [heq slot' h]
      exact hk msg slot hmem hp
  | fails s pre hw e =>
    have hcancel : cancel s.state = ⟨unifyingPairingRegister, [0x02, 0x00, 0x00]⟩ := by
      rcases hw.phase with hs | ⟨hs, -⟩ <;> rw [hs] <;> rfl
    refine ⟨fun slot h => absurd h (hw.unpaired slot), fun _ _ slot h => absurd h (hw.unpaired slot), fun e' _ => ?_,
      fun h => (by cases h)⟩
    simp only [finish, Session.write, hcancel]
    exact List.getLast?_concat

/-! ### What a paired session leaves -/

/-- The receiver reports its lock open. -/
def lockOpens : HidppMessage := .short #v[0xff, 0x4a, 0x01, 0x00, 0x00, 0x00]

/-- The connection notification of a slot, the same for a new device and for one that wakes up. -/
def slotConnects (slot : UInt8) : HidppMessage := .short #v[slot, 0x41, 0x04, 0x02, 0x69, 0x40]

/-- The slots whose devices were paired before the session. -/
def pairedBefore : List UInt8 := [1, 2]

/-- The lock opens, and the device of a slot connects. -/
def connects (slot : UInt8) : List Input :=
  [.notification (some lockOpens), .notification (some (slotConnects slot))]

/-- **A session that pairs a new device does not tell the receiver to stop**, which did not report its lock closed.
Nothing in the loop tells a device that was paired before from a new one. -/
theorem reconnect_ends_paired :
    (3 ∉ pairedBefore ∧ .paired 3 ∈ (runSession (fun _ => .ok ()) .unifying 0 (connects 3)).1.events ∧
      (runSession (fun _ => .ok ()) .unifying 0 (connects 3)).1.writes =
        [⟨0x00, [0x00, 0x09, 0x00]⟩, ⟨unifyingPairingRegister, [0x01, 0x00, 30]⟩] ∧
      ∀ msg, .notification (some msg) ∈ connects 3 → ∀ error,
        HidppMessage.notification msg ≠ some (.unifyingLock false error)) ∧
    2 ∈ pairedBefore ∧ .paired 2 ∈ (runSession (fun _ => .ok ()) .unifying 0 (connects 2)).1.events := by
  have hopens : HidppMessage.notification lockOpens = some (.unifyingLock true 0) := by decide +kernel
  have hconnects : HidppMessage.notification (slotConnects 3) = some (.connected 3 true) := by decide +kernel
  refine ⟨⟨by decide, by decide +kernel, by decide +kernel, fun msg hm error => ?_⟩, by decide, by decide +kernel⟩
  rcases List.mem_cons.1 hm with h | h
  · cases h
    rw [hopens]
    exact fun h => by cases h
  · cases List.mem_singleton.1 h
    rw [hconnects]
    exact fun h => by cases h

end Pairing
end OpenLogi
