import OpenLogi.Flow.Pairing
/-!
# Gate — what a paired session has seen

`Moves` says once what a call can do to a session.  From it, along every sequence of calls: a session is paired only
behind its one successful write of the peer's key, both confirmations before the deadline and, on the responder, the
opened commitment it had before its nonce left.
-/
namespace OpenLogi
namespace Flow

/-- A call of a session, with how the key store answers if the call writes to it. -/
inductive Call where
  | start (nonce : PairingNonce)
  | receiveStart (start : PairStart) (nonce : PairingNonce) (now : Nat) (timeout : Option Nat)
  | receivePrompted (prompted : PairPrompted) (now : Nat)
  | receiveReveal (reveal : PairReveal) (now : Nat)
  | receiveRevealed (now : Nat)
  | confirmLocal (now : Nat) (answer : Except PersistPeerKeyError Unit)
  | receiveConfirm (now : Nat) (answer : Except PersistPeerKeyError Unit)
  | receiveOutcome (outcome : PairOutcome)
  | reject
  | abort (reason : PairingAbortReason)
  | receiveAbort (abort : PairAbort)
  | checkTimeout (now : Nat)

/-- A write of a key and how the store answered it. -/
abbrev Write := PublicKey × Except PersistPeerKeyError Unit

/-- The store that answers `answer`, as the list of its writes. -/
def logging (answer : Except PersistPeerKeyError Unit) : PeerKeyStore (List Write) :=
  fun key writes => (answer, writes ++ [(key, answer)])

/-- A terminal state. -/
def PairingState.isTerminal : PairingState → Bool
  | .paired | .rejected | .timedOut | .aborted _ => true
  | _ => false

/-- A terminal phase that trusts nobody. -/
def Phase.isFailed : Phase → Bool
  | .rejected | .timedOut | .aborted _ => true
  | _ => false

/-- The call of a confirmation. -/
def confirmCall (side : ConfirmationSide) (now : Nat) (answer : Except PersistPeerKeyError Unit) : Call :=
  match side with
  | .here => .confirmLocal now answer
  | .peer => .receiveConfirm now answer

variable (crypto : Crypto)

namespace PairingSession

/-- A call: the session after it, and the writes it made. -/
def take (s : PairingSession) : Call → PairingSession × List Write
  | .start nonce => ((s.start crypto nonce).2, [])
  | .receiveStart start nonce now timeout => ((s.receiveStart start nonce now timeout).2, [])
  | .receivePrompted prompted now => ((s.receivePrompted crypto prompted now).2, [])
  | .receiveReveal reveal now => ((s.receiveReveal crypto reveal now).2, [])
  | .receiveRevealed now => ((s.receiveRevealed now).2, [])
  | .confirmLocal now answer => (s.confirmLocal now (logging answer) []).2
  | .receiveConfirm now answer => (s.receiveConfirm now (logging answer) []).2
  | .receiveOutcome outcome => ((s.receiveOutcome outcome).2, [])
  | .reject => (s.reject.2, [])
  | .abort reason => ((s.abort reason).2, [])
  | .receiveAbort abort => ((s.receiveAbort abort).2, [])
  | .checkTimeout now => ((s.checkTimeout now).2, [])

/-- **What a call can do**: nothing, end the ceremony, or one of its moves. -/
inductive Moves (s : PairingSession) : Call → PairingSession → List Write → Prop
  | stays {call : Call} : Moves s call s []
  | ends {call : Call} (phase : Phase) (failed : phase.isFailed = true) (active : s.state.isTerminal = false) :
    Moves s call (s.terminal phase) []
  | start {nonce : PairingNonce} (idle : s.phase = .idle) :
    Moves s (.start nonce) { s with role := some .initiator, phase := .awaitingPrompt nonce } []
  | receiveStart {start : PairStart} {nonce : PairingNonce} {now : Nat} {timeout : Option Nat}
    {commitment : NonceCommitment} {deadline : Deadline} (idle : s.phase = .idle)
    (commits : start.nonceCommitment = commitment.val)
    (answer : (s.receiveStart start nonce now timeout).1 = .ok ⟨deadline.timeoutMs, nonce.val⟩) :
    Moves s (.receiveStart start nonce now timeout)
      { s with role := some .responder, phase := .awaitingReveal commitment nonce deadline } []
  | receivePrompted {prompted : PairPrompted} {now : Nat} {nonce : PairingNonce} {code : SasCode} {deadline : Deadline}
    (waits : s.phase = .awaitingPrompt nonce) :
    Moves s (.receivePrompted prompted now) { s with phase := .awaitingRevealed code deadline false } []
  | receiveReveal {reveal : PairReveal} {now : Nat} {commitment : NonceCommitment} {nonce peerNonce : PairingNonce}
    {deadline : Deadline} (waits : s.phase = .awaitingReveal commitment nonce deadline)
    (reveals : reveal.nonce = peerNonce.val)
    (opens : opensTo crypto commitment s.peerKey s.localKey peerNonce = true) :
    Moves s (.receiveReveal reveal now)
      { s with
        phase := .prompted (.new (deriveSas crypto (s.peerParty peerNonce) (s.localParty nonce)) deadline) } []
  | receiveRevealed {now : Nat} {code : SasCode} {deadline : Deadline} {peerConfirmed : Bool}
    (waits : s.phase = .awaitingRevealed code deadline peerConfirmed) :
    Moves s (.receiveRevealed now) { s with phase := .prompted { Prompted.new code deadline with peerConfirmed } } []
  | overtakes {now : Nat} {answer : Except PersistPeerKeyError Unit} {code : SasCode} {deadline : Deadline}
    {peerConfirmed : Bool} (waits : s.phase = .awaitingRevealed code deadline peerConfirmed)
    (inTime : now < deadline.at_) :
    Moves s (.receiveConfirm now answer) { s with phase := .awaitingRevealed code deadline true } []
  | confirms {side : ConfirmationSide} {now : Nat} {answer : Except PersistPeerKeyError Unit} {p : Prompted}
    (shown : s.phase = .prompted p) (inTime : now < p.deadline.at_)
    (pending : ((p.mark side).localConfirmed && (p.mark side).peerConfirmed) = false) :
    Moves s (confirmCall side now answer) { s with phase := .prompted (p.mark side) } []
  | refused {side : ConfirmationSide} {now : Nat} {error : PersistPeerKeyError} {p : Prompted}
    (shown : s.phase = .prompted p) (inTime : now < p.deadline.at_) :
    Moves s (confirmCall side now (.error error)) { s with phase := .prompted (p.mark side) }
      [(s.peerKey, .error error)]
  | pairs {side : ConfirmationSide} {now : Nat} {p : Prompted} (shown : s.phase = .prompted p)
    (inTime : now < p.deadline.at_) (here : (p.mark side).localConfirmed = true)
    (peer : (p.mark side).peerConfirmed = true) :
    Moves s (confirmCall side now (.ok ())) (s.terminal .paired) [(s.peerKey, .ok ())]

variable {crypto} {s : PairingSession}

theorem active_of_ensureActive (h : s.ensureActive = .ok ()) : s.state.isTerminal = false := by
  unfold ensureActive at h
  unfold state
  split at h <;> rename_i hp <;> simp_all [PairingState.isTerminal]

theorem active_of_ensurePrompted (h : s.ensurePrompted = .ok ()) : s.state.isTerminal = false := by
  unfold ensurePrompted at h
  unfold state
  split at h <;> rename_i hp <;> simp_all [PairingState.isTerminal]

theorem idle_of_ensureIdle (h : s.ensureIdle = .ok ()) : s.phase = .idle := by
  unfold ensureIdle at h
  split at h
  · assumption
  · cases h

theorem active_of_deadline {deadline : Deadline} (h : s.deadline = some deadline) : s.state.isTerminal = false := by
  unfold PairingSession.deadline at h
  unfold state
  split at h <;> rename_i hp <;> simp_all [PairingState.isTerminal]

theorem moves_start (nonce : PairingNonce) : Moves crypto s (.start nonce) (s.start crypto nonce).2 [] := by
  unfold PairingSession.start
  split
  · exact .stays
  · rename_i h
    exact .start (idle_of_ensureIdle h)

theorem moves_receiveStart (start : PairStart) (nonce : PairingNonce) (now : Nat) (timeout : Option Nat) :
    Moves crypto s (.receiveStart start nonce now timeout) (s.receiveStart start nonce now timeout).2 [] := by
  cases hi : s.ensureIdle with
  | error e =>
    simp only [PairingSession.receiveStart, hi]
    exact .stays
  | ok =>
    cases hf : fixed 32 start.nonceCommitment with
    | error source =>
      simp only [PairingSession.receiveStart, hi, hf]
      exact .stays
    | ok commitment =>
      have hr : (s.receiveStart start nonce now timeout).1 =
          .ok ⟨(Deadline.new now (timeout.getD defaultPairingTimeout)).timeoutMs, nonce.val⟩ := by
        simp only [PairingSession.receiveStart, hi, hf]
      have hmove : Moves crypto s (.receiveStart start nonce now timeout) _ [] :=
        .receiveStart (idle_of_ensureIdle hi) (fixed_ok hf) hr
      simp only [PairingSession.receiveStart, hi, hf]
      exact hmove

theorem moves_receivePrompted (prompted : PairPrompted) (now : Nat) :
    Moves crypto s (.receivePrompted prompted now) (s.receivePrompted crypto prompted now).2 [] := by
  unfold PairingSession.receivePrompted
  split
  · rename_i nonce hp
    split
    · exact .stays
    · exact .receivePrompted hp
  · exact .stays

theorem moves_receiveReveal (reveal : PairReveal) (now : Nat) :
    Moves crypto s (.receiveReveal reveal now) (s.receiveReveal crypto reveal now).2 [] := by
  unfold PairingSession.receiveReveal
  split
  · rename_i commitment nonce deadline hp
    have hactive : s.state.isTerminal = false := by simp [state, hp, PairingState.isTerminal]
    split
    · exact .ends .timedOut rfl hactive
    · split
      · exact .stays
      · rename_i peerNonce hf
        split
        · exact .ends (.aborted .codeMismatch) rfl hactive
        · rename_i ho
          exact .receiveReveal hp (fixed_ok hf) (by simpa using ho)
  · exact .stays

theorem moves_receiveRevealed (now : Nat) : Moves crypto s (.receiveRevealed now) (s.receiveRevealed now).2 [] := by
  unfold PairingSession.receiveRevealed
  split
  · rename_i code deadline peerConfirmed hp
    split
    · exact .ends .timedOut rfl (by simp [state, hp, PairingState.isTerminal])
    · exact .receiveRevealed hp
  · exact .stays

theorem moves_confirmPrompted (side : ConfirmationSide) (now : Nat) (answer : Except PersistPeerKeyError Unit) :
    Moves crypto s (confirmCall side now answer) (s.confirmPrompted side now (logging answer) []).2.1
      (s.confirmPrompted side now (logging answer) []).2.2 := by
  unfold confirmPrompted
  split
  · rename_i p hp
    split
    · exact .ends .timedOut rfl (by simp [state, hp, PairingState.isTerminal])
    · rename_i hd
      have hlt : now < p.deadline.at_ := by simpa [Deadline.expired] using hd
      dsimp only [logging]
      split
      · rename_i hb
        rw [Bool.and_eq_true] at hb
        cases answer with
        | error error => exact .refused hp hlt
        | ok _ => exact .pairs hp hlt hb.1 hb.2
      · rename_i hb
        exact .confirms hp hlt (by simpa using hb)
  · exact .stays

theorem moves_confirm (side : ConfirmationSide) (now : Nat) (answer : Except PersistPeerKeyError Unit) :
    Moves crypto s (confirmCall side now answer) (s.confirm side now (logging answer) []).2.1
      (s.confirm side now (logging answer) []).2.2 := by
  unfold confirm
  split
  · exact .stays
  · exact .stays
  · exact .stays
  · rename_i code deadline peerConfirmed hp
    split
    · exact .ends .timedOut rfl (by simp [state, hp, PairingState.isTerminal])
    · rename_i hd
      exact .overtakes hp (by simpa [Deadline.expired] using hd)
  · exact moves_confirmPrompted _ now answer

theorem moves_receiveOutcome (outcome : PairOutcome) :
    Moves crypto s (.receiveOutcome outcome) (s.receiveOutcome outcome).2 [] := by
  unfold receiveOutcome
  split
  · split
    · exact .stays
    · split <;> exact .stays
    · exact .stays
  · split <;> exact .stays
  · split
    · exact .stays
    · rename_i h
      exact .ends .rejected rfl (active_of_ensurePrompted h)
  · split
    · exact .stays
    · rename_i h
      exact .ends .timedOut rfl (active_of_ensurePrompted h)
  · exact .stays
  · exact .stays

theorem moves_receiveAbort (abort : PairAbort) : Moves crypto s (.receiveAbort abort) (s.receiveAbort abort).2 [] := by
  unfold receiveAbort
  split
  · exact .stays
  · rename_i h
    have hactive := active_of_ensureActive h
    split
    · exact .ends (.aborted .userCancelled) rfl hactive
    · exact .ends (.aborted .codeMismatch) rfl hactive
    · exact .ends (.aborted .timeout) rfl hactive
    · exact .stays
    · exact .stays

/-- **Every call moves the session so.** -/
theorem moves_take (call : Call) : Moves crypto s call (s.take crypto call).1 (s.take crypto call).2 := by
  cases call with
  | start nonce => exact moves_start nonce
  | receiveStart start nonce now timeout => exact moves_receiveStart start nonce now timeout
  | receivePrompted prompted now => exact moves_receivePrompted prompted now
  | receiveReveal reveal now => exact moves_receiveReveal reveal now
  | receiveRevealed now => exact moves_receiveRevealed now
  | confirmLocal now answer => exact moves_confirm .here now answer
  | receiveConfirm now answer => exact moves_confirm .peer now answer
  | receiveOutcome outcome => exact moves_receiveOutcome outcome
  | reject =>
    simp only [take, reject]
    split
    · exact .stays
    · rename_i h
      exact .ends .rejected rfl (active_of_ensureActive h)
  | abort reason =>
    simp only [take, abort]
    split
    · exact .stays
    · rename_i h
      exact .ends (.aborted reason) rfl (active_of_ensureActive h)
  | receiveAbort abort => exact moves_receiveAbort abort
  | checkTimeout now =>
    simp only [take, checkTimeout]
    split
    · exact .stays
    · rename_i h
      split
      · exact .ends .timedOut rfl (active_of_deadline h)
      · exact .stays

theorem deadline_of_prompted {p : Prompted} (h : s.phase = .prompted p) : s.deadline = some p.deadline := by
  simp [deadline, h]

theorem sasCode_of_prompted {p : Prompted} (h : s.phase = .prompted p) : s.sasCode = some p.code := by
  simp [sasCode, h]

end PairingSession

/-! ## The calls of a connection -/

/-- A call that was made: the session before and after it, and its writes. -/
structure Taken where
  before : PairingSession
  call : Call
  writes : List Write
  after : PairingSession

/-- A session and the calls it has taken. -/
structure Ceremony where
  session : PairingSession
  taken : List Taken

namespace Ceremony

def step (c : Ceremony) (call : Call) : Ceremony :=
  let (after, writes) := c.session.take crypto call
  ⟨after, c.taken ++ [⟨c.session, call, writes, after⟩]⟩

def run (c : Ceremony) (calls : List Call) : Ceremony := calls.foldl (step crypto) c

end Ceremony

namespace Taken

/-- The side confirmed before the deadline, this one while its code was shown. -/
def Confirms (t : Taken) (side : ConfirmationSide) (deadline : Deadline) : Prop :=
  ∃ now answer, t.call = confirmCall side now answer ∧ (side = .here → t.before.sasCode.isSome = true) ∧
    t.before.deadline = some deadline ∧ now < deadline.at_

/-- The idle session took the commitment and only then answered with its nonce. -/
def Commits (t : Taken) (commitment : NonceCommitment) (nonce : PairingNonce) : Prop :=
  ∃ start now timeout timeoutMs, t.call = .receiveStart start nonce now timeout ∧ t.before.phase = .idle ∧
    start.nonceCommitment = commitment.val ∧
    (t.before.receiveStart start nonce now timeout).1 = .ok ⟨timeoutMs, nonce.val⟩

def Reveals (t : Taken) (nonce : PairingNonce) : Prop :=
  ∃ reveal now, t.call = .receiveReveal reveal now ∧ reveal.nonce = nonce.val

end Taken

/-- No call stored a key. -/
def NoneStored (taken : List Taken) : Prop := ∀ t ∈ taken, ∀ w ∈ t.writes, w.2 ≠ .ok ()

/-- The key was stored once, by a call that no confirmation comes after. -/
def Trusted (key : PublicKey) (taken : List Taken) : Prop :=
  ∃ pre t post deadline, taken = pre ++ t :: post ∧ t.writes = [(key, .ok ())] ∧ NoneStored pre ∧ NoneStored post ∧
    ∀ side, ∃ u ∈ pre ++ [t], u.Confirms side deadline

/-- The code is that of a revealed nonce that opens the commitment taken before this side's nonce left. -/
def Opened (s : PairingSession) (taken : List Taken) (code : SasCode) : Prop :=
  ∃ pre r mid v post commitment nonce peerNonce, taken = pre ++ r :: (mid ++ v :: post) ∧ r.Commits commitment nonce ∧
    v.Reveals peerNonce ∧ opensTo crypto commitment s.peerKey s.localKey peerNonce = true ∧
    code = deriveSas crypto (s.peerParty peerNonce) (s.localParty nonce)

/-- What a session in a phase has seen. -/
def Shows (s : PairingSession) (taken : List Taken) : Phase → Prop
  | .awaitingPrompt _ => NoneStored taken ∧ s.role = some .initiator
  | .awaitingReveal commitment nonce _ => NoneStored taken ∧ ∃ t ∈ taken, t.Commits commitment nonce
  | .awaitingRevealed _ deadline peerConfirmed =>
    NoneStored taken ∧ s.role = some .initiator ∧ (peerConfirmed = true → ∃ t ∈ taken, t.Confirms .peer deadline)
  | .prompted p =>
    NoneStored taken ∧ (p.localConfirmed = true → ∃ t ∈ taken, t.Confirms .here p.deadline) ∧
      (p.peerConfirmed = true → ∃ t ∈ taken, t.Confirms .peer p.deadline) ∧
      (s.role = some .responder → Opened crypto s taken p.code)
  | .paired => Trusted s.peerKey taken
  | _ => NoneStored taken

variable {crypto}

variable {taken : List Taken} {t : Taken} {s : PairingSession} {p : Prompted} {side : ConfirmationSide}

theorem NoneStored.append (h : NoneStored taken) (ht : ∀ w ∈ t.writes, w.2 ≠ .ok ()) :
    NoneStored (taken ++ [t]) := by
  intro u hu
  rcases List.mem_append.1 hu with hu | hu
  · exact h u hu
  · rw [List.mem_singleton.1 hu]
    exact ht

theorem exists_append {P : Taken → Prop} (t : Taken) (h : ∃ u ∈ taken, P u) :
    ∃ u ∈ taken ++ [t], P u := by
  obtain ⟨u, hu, hp⟩ := h
  exact ⟨u, List.mem_append_left _ hu, hp⟩

theorem exists_last {P : Taken → Prop} (taken : List Taken) (h : P t) : ∃ u ∈ taken ++ [t], P u :=
  ⟨t, List.mem_append_right _ (List.mem_singleton.2 rfl), h⟩

theorem Trusted.append {key : PublicKey} (h : Trusted key taken) (ht : t.writes = []) :
    Trusted key (taken ++ [t]) := by
  obtain ⟨pre, u, post, deadline, rfl, hu, hpre, hpost, hc⟩ := h
  refine ⟨pre, u, post ++ [t], deadline, by simp, hu, hpre, hpost.append ?_, hc⟩
  rw [ht]
  intro w hw
  cases hw

theorem Opened.append {code : SasCode} (t : Taken) (h : Opened crypto s taken code) :
    Opened crypto s (taken ++ [t]) code := by
  obtain ⟨pre, r, mid, v, post, commitment, nonce, peerNonce, rfl, h⟩ := h
  exact ⟨pre, r, mid, v, post ++ [t], commitment, nonce, peerNonce, by simp, h⟩

/-- A call that changes nothing leaves what the session has seen. -/
theorem Shows.append {phase : Phase} (h : Shows crypto s taken phase) (ht : t.writes = []) :
    Shows crypto s (taken ++ [t]) phase := by
  have hw : ∀ w ∈ t.writes, w.2 ≠ .ok () := by
    rw [ht]
    intro w hw
    cases hw
  cases phase with
  | idle => exact NoneStored.append h hw
  | awaitingPrompt => exact ⟨h.1.append hw, h.2⟩
  | awaitingReveal => exact ⟨h.1.append hw, exists_append t h.2⟩
  | awaitingRevealed => exact ⟨h.1.append hw, h.2.1, fun hc => exists_append t (h.2.2 hc)⟩
  | prompted p =>
    obtain ⟨hs, hh, hp, ho⟩ := h
    exact ⟨hs.append hw, fun hc => exists_append t (hh hc), fun hc => exists_append t (hp hc),
      fun hr => (ho hr).append t⟩
  | paired => exact Trusted.append h ht
  | rejected => exact NoneStored.append h hw
  | timedOut => exact NoneStored.append h hw
  | aborted => exact NoneStored.append h hw

theorem Shows.noneStored {phase : Phase} (h : Shows crypto s taken phase) (hp : phase ≠ .paired) :
    NoneStored taken := by
  cases phase with
  | paired => exact absurd rfl hp
  | awaitingPrompt => exact h.1
  | awaitingReveal => exact h.1
  | awaitingRevealed => exact h.1
  | prompted => exact h.1
  | _ => exact h

theorem confirms_of_prompted (shown : s.phase = .prompted p) {now : Nat} {answer : Except PersistPeerKeyError Unit}
    {writes : List Write} {after : PairingSession} (inTime : now < p.deadline.at_) :
    Taken.Confirms ⟨s, confirmCall side now answer, writes, after⟩ side p.deadline :=
  ⟨now, answer, rfl, fun _ => by rw [PairingSession.sasCode_of_prompted shown]; rfl,
    PairingSession.deadline_of_prompted shown, inTime⟩

/-- A confirmation in time is what the marked side has seen. -/
theorem Shows.confirmed (h : Shows crypto s taken (.prompted p)) (t : Taken) (ht : t.Confirms side p.deadline) :
    ((p.mark side).localConfirmed = true → ∃ u ∈ taken ++ [t], u.Confirms .here p.deadline) ∧
      ((p.mark side).peerConfirmed = true → ∃ u ∈ taken ++ [t], u.Confirms .peer p.deadline) := by
  obtain ⟨-, hh, hp, -⟩ := h
  cases side with
  | here => exact ⟨fun _ => exists_last taken ht, fun hc => exists_append t (hp hc)⟩
  | peer => exact ⟨fun hc => exists_append t (hh hc), fun _ => exists_last taken ht⟩

/-- A code that is shown stays shown behind one more confirmation. -/
theorem Shows.mark (h : Shows crypto s taken (.prompted p)) (ht : t.Confirms side p.deadline)
    (hw : ∀ w ∈ t.writes, w.2 ≠ .ok ()) :
    Shows crypto { s with phase := .prompted (p.mark side) } (taken ++ [t]) (.prompted (p.mark side)) := by
  obtain ⟨hh, hp⟩ := h.confirmed t ht
  obtain ⟨hn, -, -, ho⟩ := h
  cases side with
  | here => exact ⟨hn.append hw, hh, hp, fun hr => (ho hr).append t⟩
  | peer => exact ⟨hn.append hw, hh, hp, fun hr => (ho hr).append t⟩

namespace Ceremony

/-- **What the session has seen, every call keeps.** -/
theorem shows_step (c : Ceremony) (call : Call) (h : Shows crypto c.session c.taken c.session.phase) :
    Shows crypto (c.step crypto call).session (c.step crypto call).taken (c.step crypto call).session.phase := by
  obtain ⟨s, taken⟩ := c
  have hm : PairingSession.Moves crypto s call (s.take crypto call).1 (s.take crypto call).2 :=
    PairingSession.moves_take call
  show Shows crypto (s.take crypto call).1
    (taken ++ [⟨s, call, (s.take crypto call).2, (s.take crypto call).1⟩]) (s.take crypto call).1.phase
  generalize (s.take crypto call).1 = s' at hm ⊢
  generalize (s.take crypto call).2 = writes at hm ⊢
  change Shows crypto s taken s.phase at h
  cases hm with
  | stays => exact h.append rfl
  | ends phase failed active =>
    have hn := h.noneStored (fun hp => by simp [PairingSession.state, hp, PairingState.isTerminal] at active)
    have hn' := hn.append (t := ⟨s, call, [], s.terminal phase⟩) (fun w hw => by cases hw)
    cases phase <;> first | exact hn' | cases failed
  | start idle =>
    rw [idle] at h
    exact ⟨NoneStored.append h (fun w hw => by cases hw), rfl⟩
  | receiveStart idle commits answer =>
    rw [idle] at h
    exact ⟨NoneStored.append h (fun w hw => by cases hw), exists_last taken ⟨_, _, _, _, rfl, idle, commits, answer⟩⟩
  | receivePrompted waits =>
    rw [waits] at h
    exact ⟨h.1.append (fun w hw => by cases hw), h.2, fun hc => by cases hc⟩
  | receiveReveal waits reveals opens =>
    rw [waits] at h
    obtain ⟨hn, r, hr, hcommits⟩ := h
    obtain ⟨pre, mid, rfl⟩ := List.append_of_mem hr
    refine ⟨hn.append (fun w hw => by cases hw), fun hc => (by cases hc), fun hc => (by cases hc), fun _ => ?_⟩
    exact ⟨pre, r, mid, _, [], _, _, _, List.append_assoc _ _ _, hcommits, ⟨_, _, rfl, reveals⟩, opens, rfl⟩
  | receiveRevealed waits =>
    rw [waits] at h
    obtain ⟨hn, hrole, hpeer⟩ := h
    refine ⟨hn.append (fun w hw => by cases hw), fun hc => (by cases hc), fun hc => exists_append _ (hpeer hc), ?_⟩
    intro hr
    cases hrole.symm.trans hr
  | overtakes waits inTime =>
    rw [waits] at h
    refine ⟨h.1.append (fun w hw => by cases hw), h.2.1, fun _ => exists_last taken ?_⟩
    exact ⟨_, _, rfl, fun hc => (by cases hc), by simp [PairingSession.deadline, waits], inTime⟩
  | confirms shown inTime pending =>
    rw [shown] at h
    exact h.mark (confirms_of_prompted shown inTime) (fun w hw => by cases hw)
  | refused shown inTime =>
    rw [shown] at h
    refine h.mark (confirms_of_prompted shown inTime) (fun w hw => ?_)
    rw [List.mem_singleton.1 hw]
    intro he
    cases he
  | @pairs _ _ p shown inTime here peer =>
    rw [shown] at h
    have hn := h.noneStored (fun hp => by cases hp)
    obtain ⟨hh, hp⟩ := h.confirmed _ (confirms_of_prompted shown inTime)
    refine ⟨taken, _, [], p.deadline, rfl, rfl, hn, fun t ht => (by cases ht), fun side => ?_⟩
    cases side with
    | here => exact hh here
    | peer => exact hp peer

theorem shows_run (c : Ceremony) (calls : List Call) (h : Shows crypto c.session c.taken c.session.phase) :
    Shows crypto (c.run crypto calls).session (c.run crypto calls).taken (c.run crypto calls).session.phase :=
  List.foldlRecOn (motive := fun c => Shows crypto c.session c.taken c.session.phase) calls (step crypto) h
    (fun c hc call _ => shows_step c call hc)

/-- What holds of every call holds of every call taken. -/
theorem taken_run {P : Taken → Prop}
    (hP : ∀ s call, P ⟨s, call, (s.take crypto call).2, (s.take crypto call).1⟩) (c : Ceremony) (calls : List Call)
    (h : ∀ t ∈ c.taken, P t) : ∀ t ∈ (c.run crypto calls).taken, P t := by
  refine List.foldlRecOn (motive := fun c => ∀ t ∈ c.taken, P t) calls (step crypto) h (fun c hc call _ => ?_)
  intro t ht
  rcases List.mem_append.1 ht with ht | ht
  · exact hc t ht
  · rw [List.mem_singleton.1 ht]
    exact hP c.session call

theorem terminal_step (c : Ceremony) (call : Call) (h : c.session.state.isTerminal = true) :
    (c.step crypto call).session = c.session := by
  have hm : PairingSession.Moves crypto c.session call (c.session.take crypto call).1 (c.session.take crypto call).2 :=
    PairingSession.moves_take call
  show (c.session.take crypto call).1 = c.session
  generalize (c.session.take crypto call).1 = s' at hm ⊢
  generalize (c.session.take crypto call).2 = writes at hm
  cases hm with
  | stays => rfl
  | ends phase failed active =>
    rw [active] at h
    cases h
  | start hp | receiveStart hp | receivePrompted hp | receiveReveal hp | receiveRevealed hp | overtakes hp
  | confirms hp | refused hp | pairs hp => simp [PairingSession.state, hp, PairingState.isTerminal] at h

theorem terminal_run (c : Ceremony) (calls : List Call) (h : c.session.state.isTerminal = true) :
    (c.run crypto calls).session = c.session := by
  refine List.foldlRecOn (motive := fun d => d.session = c.session) calls (step crypto) rfl (fun d hd call _ => ?_)
  rw [terminal_step d call (by rw [hd]; exact h), hd]

/-- The identities a session was created for. -/
def identities (s : PairingSession) : PublicKey × PublicKey × HelloDigest × HelloDigest :=
  (s.localKey, s.peerKey, s.localHello, s.peerHello)

theorem identities_run (c : Ceremony) (calls : List Call) :
    identities (c.run crypto calls).session = identities c.session := by
  refine List.foldlRecOn (motive := fun d => identities d.session = identities c.session) calls (step crypto) rfl
    (fun d hd call _ => ?_)
  have hm : PairingSession.Moves crypto d.session call (d.session.take crypto call).1 (d.session.take crypto call).2 :=
    PairingSession.moves_take call
  rw [← hd]
  show identities (d.session.take crypto call).1 = identities d.session
  generalize (d.session.take crypto call).1 = s' at hm ⊢
  generalize (d.session.take crypto call).2 = writes at hm
  cases hm <;> rfl

/-- A call that wrote in vain has not paired. -/
theorem refused_not_paired (s : PairingSession) (call : Call) :
    (∃ w ∈ (s.take crypto call).2, w.2 ≠ .ok ()) → (s.take crypto call).1.state ≠ .paired := by
  have hm : PairingSession.Moves crypto s call (s.take crypto call).1 (s.take crypto call).2 :=
    PairingSession.moves_take call
  generalize (s.take crypto call).1 = s' at hm ⊢
  generalize (s.take crypto call).2 = writes at hm ⊢
  rintro ⟨w, hw, hne⟩
  cases hm with
  | refused shown inTime => simp [PairingSession.state]
  | pairs shown inTime here peer =>
    rw [List.mem_singleton.1 hw] at hne
    exact absurd rfl hne
  | _ => cases hw

/-- **The gate of a pairing session**, along every sequence of calls: it is paired only once the peer's key was stored,
exactly once and behind both confirmations before the deadline; a responder shows only the code of a nonce that opens
the commitment it took before its own nonce left; a terminal state is never left; and a write that failed never
pairs. -/
theorem pairing_gate (localKey peerKey : PublicKey) (localHello peerHello : HelloDigest) (calls : List Call) :
    let c := run crypto ⟨.new localKey peerKey localHello peerHello, []⟩ calls
    (c.session.state = .paired → Trusted peerKey c.taken) ∧
      (c.session.role = some .responder → ∀ code, c.session.sasCode = some code →
        Opened crypto (.new localKey peerKey localHello peerHello) c.taken code) ∧
      (∀ later, c.session.state.isTerminal = true → (c.run crypto later).session = c.session) ∧
      ∀ t ∈ c.taken, (∃ w ∈ t.writes, w.2 ≠ .ok ()) → t.after.state ≠ .paired := by
  intro c
  have hshows : Shows crypto c.session c.taken c.session.phase := shows_run _ calls (fun t ht => by cases ht)
  have hid : identities c.session = identities (.new localKey peerKey localHello peerHello) := identities_run _ calls
  simp only [identities, PairingSession.new, Prod.mk.injEq] at hid
  obtain ⟨hl, hp, hlh, hph⟩ := hid
  refine ⟨fun h => ?_, fun hr code hcode => ?_, fun later h => terminal_run c later h,
    taken_run (fun s call => refused_not_paired s call) _ calls (fun t ht => by cases ht)⟩
  · have hphase : c.session.phase = .paired := by
      unfold PairingSession.state at h
      split at h <;> first | assumption | cases h
    rw [hphase] at hshows
    rw [← hp]
    exact hshows
  · cases hphase : c.session.phase with
    | prompted p =>
      rw [hphase] at hshows
      rw [PairingSession.sasCode_of_prompted hphase, Option.some.injEq] at hcode
      obtain ⟨pre, r, mid, v, post, commitment, nonce, peerNonce, ht, hc, hv, ho, hd⟩ := hshows.2.2.2 hr
      refine ⟨pre, r, mid, v, post, commitment, nonce, peerNonce, ht, hc, hv, ?_, ?_⟩
      · rw [hl, hp] at ho
        exact ho
      · rw [← hcode, hd]
        simp only [PairingSession.peerParty, PairingSession.localParty, hl, hp, hlh, hph, PairingSession.new]
    | _ => simp [PairingSession.sasCode, hphase] at hcode

/-- A responder whose peer confirms first, whose store fails once and whose user confirms again. -/
example :
    let c := run sampleCrypto ⟨.new (sampleKey 2) (sampleKey 1) (sampleKey 4) (sampleKey 3), []⟩
      [.receiveStart ⟨(sampleCrypto.sha256 []).val⟩ (sampleNonce 6) 0 none, .receiveReveal ⟨(sampleNonce 5).val⟩ 1,
        .receiveConfirm 2 (.ok ()), .confirmLocal 3 (.error ⟨"disk"⟩), .confirmLocal 4 (.ok ()), .reject]
    c.session.state = .paired ∧ c.taken.map (fun t => t.after.sasCode.map SasCode.value) =
      [none, some 909119, some 909119, some 909119, none, none] := by
  decide

end Ceremony
end Flow
end OpenLogi
