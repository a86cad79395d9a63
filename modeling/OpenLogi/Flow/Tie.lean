import OpenLogi.Flow.Dial
/-!
# Tie — both ends keep the same connection

A connection that nobody closed is at both ends, in one place each (`Inv`); so in a quiescent state both run it.  What
closes is decided by the keys (`Tied`): only a connection that the smaller key dialed, and only once the larger key has
dialed one, which nobody closes.
-/
namespace OpenLogi
namespace Flow
namespace Dial

open Lib (run run_inv)

variable {key : End → PublicKey}

@[simp] theorem End.other_other (e : End) : e.other.other = e := by cases e <;> rfl

theorem End.other_ne (e : End) : e.other ≠ e := by cases e <;> decide

theorem End.eq_or_eq_other (e e' : End) : e' = e ∨ e' = e.other := by cases e <;> cases e' <;> simp [End.other]

/-- Of two distinct keys, one is the smaller. -/
theorem isSmaller_other (h : key .left ≠ key .right) (e : End) : isSmaller key e.other = !isSmaller key e := by
  have hne : key e ≠ key e.other := by cases e <;> [exact h; exact h.symm]
  have hval : (key e).1 ≠ (key e.other).1 := fun heq => hne (Subtype.ext heq)
  rw [isSmaller, isSmaller, End.other_other]
  by_cases hlt : (key e).1 < (key e.other).1
  · simp [hlt, List.lt_asymm hlt]
  · have hgt : (key e.other).1 < (key e).1 :=
      Decidable.of_not_not fun hno => hval (List.le_antisymm (List.not_lt.1 hno) (List.not_lt.1 hlt))
    simp [hlt, hgt]

/-! ## The connections at an end -/

def Phase.conns : Phase → List Conn
  | .acquiring dialed pendingIncoming => dialed.toList ++ pendingIncoming.toList
  | .waiting => []
  | .running c => [c]

def AcquireOutcome.conns : AcquireOutcome → List Conn
  | .connection c => [c]
  | .unavailable => []

/-- The connections that an end holds, or is still to accept. -/
def Peer.conns (p : Peer) : List Conn := p.phase.conns ++ p.incoming ++ p.handshakes

/-- An end dials its own connections and accepts the other's; the smaller key takes an incoming one at once. -/
structure Peer.Good (key : End → PublicKey) (e : End) (p : Peer) : Prop where
  dialed : ∀ c pendingIncoming, p.phase = .acquiring (some c) pendingIncoming → c.dialer = e
  pending : ∀ dialed c, p.phase = .acquiring dialed (some c) → c.dialer = e.other ∧ isSmaller key e = false
  accepted : ∀ c ∈ p.incoming ++ p.handshakes, c.dialer = e.other
  signals : p.signals = match p.phase with
    | .running c => ⟨.connected, some c⟩
    | _ => {}

theorem Peer.conns_acquired (p : Peer) (outcome : AcquireOutcome) :
    (p.acquired outcome).conns = outcome.conns ++ (p.incoming ++ p.handshakes) := by
  cases outcome <;> rfl

/-- An acquire keeps one of what it has, and closes the other. -/
theorem acquireDialed_perm (key : End → PublicKey) (e : End) (dialed pendingIncoming : Option Conn) :
    (dialed.toList ++ pendingIncoming.toList).Perm
      ((acquireDialed key e dialed pendingIncoming).1.conns ++ (acquireDialed key e dialed pendingIncoming).2) := by
  cases dialed with
  | none => cases pendingIncoming <;> exact .refl _
  | some outgoing =>
    cases pendingIncoming with
    | none => exact .refl _
    | some incoming =>
      unfold acquireDialed
      dsimp only
      split
      · exact .swap incoming outgoing []
      · exact .refl _

theorem takeIncoming_perm (p : Peer) (e : End) (candidate : Conn) :
    (candidate :: p.conns).Perm ((p.takeIncoming key e candidate).1.conns ++ (p.takeIncoming key e candidate).2) := by
  refine List.perm_iff_count.2 fun a => ?_
  unfold Peer.takeIncoming Peer.conns
  split
  · next dialed pendingIncoming hphase =>
    split
    · simp only [hphase, Peer.startSession, Phase.conns, List.count_append, List.count_cons, List.count_nil]
      omega
    · split
      · simp only [hphase, Phase.conns, List.count_append, List.count_cons, List.count_nil]
        omega
      · next hnone =>
        rw [Bool.not_eq_true, Option.isSome_eq_false_iff, Option.isNone_iff_eq_none] at hnone
        simp only [hphase, hnone, Phase.conns, Option.toList, List.count_append, List.count_cons, List.count_nil]
        omega
  · next hphase =>
    simp only [hphase, Peer.startSession, Phase.conns, List.count_append, List.count_cons, List.count_nil]
    omega
  · next c hphase =>
    split
    · simp only [hphase, Peer.startSession, Phase.conns, List.count_append, List.count_cons, List.count_nil]
      omega
    · simp only [hphase, Phase.conns, List.count_append, List.count_cons, List.count_nil]
      omega

variable {c : Conn} {s : Sys}

theorem accept_perm (p : Peer) (h : c ∈ p.handshakes) :
    p.conns.Perm ((p.accept c).1.conns ++ (p.accept c).2) := by
  refine List.perm_iff_count.2 fun a => ?_
  have hcount := (List.perm_cons_erase h).count_eq a
  unfold Peer.accept Peer.conns
  dsimp only
  split
  · simp only [List.count_append, List.count_cons, List.count_nil] at hcount ⊢
    omega
  · simp only [List.count_append, List.count_cons, List.count_nil] at hcount ⊢
    omega

/-! ## What each end holds -/

namespace Peer

variable {e : End} {p : Peer}

theorem Good.start (h : p.Good key e) (c : Conn) : (p.startSession c).Good key e :=
  ⟨fun _ _ hno => (by cases hno), fun _ _ hno => (by cases hno), h.accepted, rfl⟩

theorem Good.acquired (h : p.Good key e) (hidle : p.signals = {}) (outcome : AcquireOutcome) :
    (p.acquired outcome).Good key e := by
  cases outcome with
  | connection c => exact h.start c
  | unavailable => exact ⟨fun _ _ hno => (by cases hno), fun _ _ hno => (by cases hno), h.accepted, hidle⟩

/-- Nothing is published while a connection is acquired. -/
theorem Good.idle (h : p.Good key e) {dialed pendingIncoming : Option Conn}
    (hphase : p.phase = .acquiring dialed pendingIncoming) : p.signals = {} := by
  rw [h.signals, hphase]

theorem Good.takeIncoming (h : p.Good key e) {candidate : Conn} (hcandidate : candidate.dialer = e.other) :
    (p.takeIncoming key e candidate).1.Good key e := by
  unfold Peer.takeIncoming
  split
  · next dialed pendingIncoming hphase =>
    split
    · exact h.start candidate
    · next hlarger =>
      split
      · exact h
      · refine ⟨fun c _ heq => ?_, fun _ c heq => ?_, h.accepted, h.idle hphase⟩
        · cases heq
          exact h.dialed c pendingIncoming hphase
        · cases heq
          exact ⟨hcandidate, by simpa using hlarger⟩
  · exact h.start candidate
  · split
    · exact h.start candidate
    · exact h

theorem Good.accept (h : p.Good key e) {c : Conn} (hc : c ∈ p.handshakes) : (p.accept c).1.Good key e := by
  have hdialer := h.accepted c (List.mem_append_right _ hc)
  unfold Peer.accept
  dsimp only
  split
  · refine ⟨h.dialed, h.pending, fun d hd => ?_, h.signals⟩
    simp only [List.mem_append, List.mem_singleton] at hd
    obtain (hd | rfl) | hd := hd
    · exact h.accepted d (List.mem_append_left _ hd)
    · exact hdialer
    · exact h.accepted d (List.mem_append_right _ (List.mem_of_mem_erase hd))
  · exact ⟨h.dialed, h.pending, fun d hd => h.accepted d (List.mem_append.2 ((List.mem_append.1 hd).imp_right
      List.mem_of_mem_erase)), h.signals⟩

/-- **An end has one connection at most that it dialed.** -/
theorem Good.outgoing (h : p.Good key e) {c : Conn} (hc : c ∈ p.conns) (hdialer : c.dialer = e) :
    (∃ pendingIncoming, p.phase = .acquiring (some c) pendingIncoming) ∨ p.phase = .running c := by
  have hother : ∀ d : Conn, d.dialer = e.other → d ≠ c := by
    rintro d hd rfl
    exact End.other_ne e (hd.symm.trans hdialer)
  rw [Peer.conns, List.append_assoc, List.mem_append] at hc
  obtain hc | hc := hc
  · cases hphase : p.phase with
    | acquiring dialed pendingIncoming =>
      rw [hphase, Phase.conns, List.mem_append, Option.mem_toList, Option.mem_toList] at hc
      obtain hd | hd := hc
      · cases hd
        exact .inl ⟨pendingIncoming, rfl⟩
      · cases hd
        exact (hother c (h.pending dialed c hphase).1 rfl).elim
    | waiting =>
      rw [hphase] at hc
      cases hc
    | running d =>
      rw [hphase, Phase.conns, List.mem_singleton] at hc
      exact .inr (congrArg Phase.running hc.symm)
  · exact (hother c (h.accepted c hc) rfl).elim

theorem Good.outgoing_eq (h : p.Good key e) {c d : Conn} (hc : c ∈ p.conns) (hd : d ∈ p.conns) (hcd : c.dialer = e)
    (hdd : d.dialer = e) : c = d := by
  obtain ⟨_, hphase⟩ | hphase := h.outgoing hc hcd <;> obtain ⟨_, hphase'⟩ | hphase' := h.outgoing hd hdd
  · cases hphase.symm.trans hphase'
    rfl
  · cases hphase.symm.trans hphase'
  · cases hphase.symm.trans hphase'
  · cases hphase.symm.trans hphase'
    rfl

end Peer

/-- What both ends hold. -/
structure Inv (key : End → PublicKey) (s : Sys) : Prop where
  good : ∀ e, (s.peer e).Good key e
  /-- A connection that nobody closed is at both ends. -/
  held : ∀ c ∈ s.dials, c ∉ s.closed → ∀ e, c ∈ (s.peer e).conns
  nodup : ∀ e, (s.peer e).conns.Nodup
  known : ∀ e, ∀ c ∈ (s.peer e).conns, c ∈ s.dials
  fresh : ∀ c ∈ s.dials, c.number < s.nextNumber
  established : ∀ c ∈ s.established, c ∈ s.dials

theorem inv_start : Inv key {} where
  good _ := ⟨fun _ _ hno => (by cases hno), fun _ _ hno => (by cases hno), fun _ hno => (by cases hno), rfl⟩
  held _ hno := (by cases hno)
  nodup _ := List.nodup_nil
  known _ _ hno := (by cases hno)
  fresh _ hno := (by cases hno)
  established _ hno := (by cases hno)

/-- One end lets go of some connections, each of them closed, and closes some of these itself. -/
structure Moves (key : End → PublicKey) (s s' : Sys) (e : End) (closes : List Conn) : Prop where
  others : ∀ o, o ≠ e → s'.peer o = s.peer o
  good : (s'.peer e).Good key e
  perm : ∃ gone, (s.peer e).conns.Perm ((s'.peer e).conns ++ gone) ∧ closes ⊆ gone ∧ gone ⊆ s'.closed
  closed : s'.closed = closes ++ s.closed
  dials : s'.dials = s.dials
  nextNumber : s'.nextNumber = s.nextNumber
  established : ∀ c ∈ s'.established, c ∈ s.established ∨ c ∈ (s.peer e).conns
  lost : s'.lost = s.lost

theorem Moves.inv {s' : Sys} {e : End} {closes : List Conn} (h : Moves key s s' e closes) (hinv : Inv key s) :
    Inv key s' := by
  obtain ⟨gone, hperm, -, hgone⟩ := h.perm
  have hmem : ∀ c, c ∈ (s.peer e).conns ↔ c ∈ (s'.peer e).conns ∨ c ∈ gone := fun c => by
    rw [hperm.mem_iff, List.mem_append]
  have hclosed : ∀ c ∈ s.closed, c ∈ s'.closed := fun c hc => by
    rw [h.closed]
    exact List.mem_append_right _ hc
  have hpeer : ∀ o, o = e ∨ s'.peer o = s.peer o := fun o => (Decidable.em (o = e)).imp_right (h.others o)
  refine ⟨fun o => ?_, fun c hc hopen o => ?_, fun o => ?_, fun o c hc => ?_, ?_, fun c hc => ?_⟩
  · obtain rfl | hsame := hpeer o
    · exact h.good
    · rw [hsame]
      exact hinv.good o
  · rw [h.dials] at hc
    have hheld := hinv.held c hc (fun hno => hopen (hclosed c hno)) o
    obtain rfl | hsame := hpeer o
    · exact ((hmem c).1 hheld).resolve_right fun hno => hopen (hgone hno)
    · rw [hsame]
      exact hheld
  · obtain rfl | hsame := hpeer o
    · exact (List.nodup_append.1 (hperm.nodup (hinv.nodup o))).1
    · rw [hsame]
      exact hinv.nodup o
  · rw [h.dials]
    obtain rfl | hsame := hpeer o
    · exact hinv.known o c ((hmem c).2 (.inl hc))
    · exact hinv.known o c (hsame ▸ hc)
  · rw [h.dials, h.nextNumber]
    exact hinv.fresh
  · rw [h.dials]
    obtain hold | hnew := h.established c hc
    · exact hinv.established c hold
    · exact hinv.known e c hnew

/-! ## What closes -/

/-- A connection may close: the smaller key dialed it, and the larger one has dialed another. -/
def Loses (key : End → PublicKey) (s : Sys) (c : Conn) : Prop :=
  isSmaller key c.dialer = true ∧ ∃ d ∈ s.dials, d.dialer = c.dialer.other

/-- Only connections that lose the tie are closed, unless one was lost. -/
def Tied (key : End → PublicKey) (s : Sys) : Prop := s.lost = [] → ∀ c ∈ s.closed, Loses key s c

section
variable {s s' : Sys} {e : End}

/-- A step whose closes lose the tie. -/
theorem Moves.tied {closes : List Conn} (h : Moves key s s' e closes) (htied : Tied key s)
    (hloses : s.lost = [] → ∀ c ∈ closes, Loses key s c) : Tied key s' := by
  intro hlost c hc
  rw [h.lost] at hlost
  rw [h.closed, List.mem_append] at hc
  rw [Loses, h.dials]
  obtain hnew | hold := hc
  · exact hloses hlost c hnew
  · exact htied hlost c hold

variable {c : Conn}

/-- **What the larger key dialed is never closed.** -/
theorem Tied.larger_open (htied : Tied key s) (hlost : s.lost = []) (hlarger : isSmaller key c.dialer = false) :
    c ∉ s.closed := fun hno => by
  have hsmaller := (htied hlost c hno).1
  rw [hlarger] at hsmaller
  cases hsmaller

/-- **Two accepted connections at one end: the other end's key is the smaller, and this end has dialed.** -/
theorem loses_of_two (hinv : Inv key s) (htied : Tied key s) (hlost : s.lost = []) {d : Conn}
    (hc : c ∈ (s.peer e).conns) (hd : d ∈ (s.peer e).conns) (hcd : c ≠ d) (hcdialer : c.dialer = e.other)
    (hddialer : d.dialer = e.other) : Loses key s c := by
  have hone : c ∉ s.closed → d ∉ s.closed → False := fun hcopen hdopen =>
    hcd ((hinv.good e.other).outgoing_eq (hinv.held c (hinv.known e c hc) hcopen e.other)
      (hinv.held d (hinv.known e d hd) hdopen e.other) hcdialer hddialer)
  rw [Loses, hcdialer, End.other_other]
  by_cases hsmaller : isSmaller key e.other = true
  · refine ⟨hsmaller, Classical.byContradiction fun hnone => ?_⟩
    have hopen : ∀ x ∈ s.closed, x.dialer = e.other → False := fun x hx hdialer => by
      obtain ⟨-, y, hy, hydialer⟩ := htied hlost x hx
      rw [hdialer, End.other_other] at hydialer
      exact hnone ⟨y, hy, hydialer⟩
    exact hone (fun hno => hopen c hno hcdialer) fun hno => hopen d hno hddialer
  · rw [Bool.not_eq_true] at hsmaller
    exact (hone (htied.larger_open hlost (hcdialer ▸ hsmaller))
      (htied.larger_open hlost (hddialer ▸ hsmaller))).elim

/-- A connection of the larger key that this end has makes the other end's lose. -/
theorem loses_incoming (hkey : key .left ≠ key .right) (hinv : Inv key s) (hlarger : isSmaller key e = false) {d : Conn}
    (hc : c.dialer = e.other) (hd : d ∈ (s.peer e).conns) (hddialer : d.dialer = e) : Loses key s c := by
  refine ⟨?_, d, hinv.known e d hd, ?_⟩
  · rw [hc, isSmaller_other hkey, hlarger]
    rfl
  · rw [hc, End.other_other, hddialer]

/-- An incoming connection makes the smaller key's own lose. -/
theorem loses_outgoing (hinv : Inv key s) (hsmaller : isSmaller key e = true) {d : Conn} (hc : c.dialer = e)
    (hd : d ∈ (s.peer e).conns) (hddialer : d.dialer = e.other) : Loses key s c :=
  ⟨hc ▸ hsmaller, d, hinv.known e d hd, hc ▸ hddialer⟩

theorem acquireDialed_loses (hkey : key .left ≠ key .right) (hinv : Inv key s) {dialed d pendingIncoming : Option Conn}
    (hphase : (s.peer e).phase = .acquiring d pendingIncoming) (hdialed : ∀ c, dialed = some c → d = some c)
    (hc : c ∈ (acquireDialed key e dialed pendingIncoming).2) : Loses key s c := by
  unfold acquireDialed at hc
  split at hc
  · next outgoing incoming =>
    rw [hdialed outgoing rfl] at hphase
    obtain ⟨hincoming, hlarger⟩ := (hinv.good e).pending _ incoming hphase
    rw [hlarger, if_neg Bool.false_ne_true, List.mem_singleton] at hc
    subst hc
    refine loses_incoming hkey hinv hlarger hincoming (d := outgoing) ?_ ((hinv.good e).dialed outgoing _ hphase)
    simp [Peer.conns, hphase, Phase.conns]
  · cases hc
  · cases hc
  · cases hc

theorem takeIncoming_loses (hkey : key .left ≠ key .right) (hinv : Inv key s) (htied : Tied key s) (hlost : s.lost = [])
    {candidate : Conn} {incoming : List Conn} (hincoming : (s.peer e).incoming = candidate :: incoming)
    (hc : c ∈ (Peer.takeIncoming key { s.peer e with incoming := incoming } e candidate).2) : Loses key s c := by
  have hgood := hinv.good e
  have hconns : candidate ∈ (s.peer e).conns := by simp [Peer.conns, hincoming]
  have hdialer : candidate.dialer = e.other := hgood.accepted candidate (by simp [hincoming])
  have hne : ∀ d ∈ (s.peer e).phase.conns, candidate ≠ d := fun d hd heq => by
    have hnodup := hinv.nodup e
    rw [Peer.conns, hincoming, List.append_assoc] at hnodup
    exact (List.nodup_append.1 hnodup).2.2 d hd candidate (by simp) heq.symm
  have hphaseConns : ∀ d ∈ (s.peer e).phase.conns, d ∈ (s.peer e).conns := fun d hd =>
    List.mem_append_left _ (List.mem_append_left _ hd)
  unfold Peer.takeIncoming at hc
  dsimp only at hc
  split at hc
  · next dialed pendingIncoming hphase =>
    split at hc
    · next hsmaller =>
      simp only [List.mem_append, Option.mem_toList] at hc
      obtain rfl | rfl := hc
      · exact loses_outgoing hinv hsmaller (hgood.dialed c _ hphase) hconns hdialer
      · rw [(hgood.pending _ c hphase).2] at hsmaller
        cases hsmaller
    · split at hc
      · next hpending =>
        -- A second incoming connection, while the first is held back for the dial.
        obtain ⟨held, rfl⟩ := Option.isSome_iff_exists.1 hpending
        rw [List.mem_singleton] at hc
        subst hc
        have hheld : held ∈ (s.peer e).phase.conns := by simp [hphase, Phase.conns]
        exact loses_of_two hinv htied hlost hconns (hphaseConns held hheld) (hne held hheld) hdialer
          (hgood.pending _ held hphase).1
      · cases hc
  · cases hc
  · next running hphase =>
    have hrunning : running ∈ (s.peer e).phase.conns := by simp [hphase, Phase.conns]
    split at hc
    · next htie =>
      rw [List.mem_singleton] at hc
      subst hc
      simp only [closeIfOutgoingLosesTie, Bool.and_eq_true, decide_eq_true_eq] at htie
      refine loses_outgoing hinv htie.2.2 (Decidable.of_not_not fun hno => ?_) hconns hdialer
      simp [Conn.direction, hno] at htie
    · next htie =>
      rw [List.mem_singleton] at hc
      subst hc
      obtain hown | hother := End.eq_or_eq_other e running.dialer
      · have hlarger : isSmaller key e = false := by
          simpa [closeIfOutgoingLosesTie, Conn.direction, hown] using htie
        exact loses_incoming hkey hinv hlarger hdialer (hphaseConns running hrunning) hown
      · exact loses_of_two hinv htied hlost hconns (hphaseConns running hrunning) (hne running hrunning) hdialer hother

theorem accept_loses (hinv : Inv key s) (htied : Tied key s) (hlost : s.lost = []) (hc : c ∈ (s.peer e).handshakes)
    {d : Conn} (hd : d ∈ ((s.peer e).accept c).2) : Loses key s d := by
  unfold Peer.accept at hd
  dsimp only at hd
  split at hd
  · cases hd
  · next hfull =>
    -- The queue is full, so there is another incoming connection.
    rw [List.mem_singleton] at hd
    subst hd
    obtain ⟨queued, hqueued⟩ : ∃ queued, queued ∈ (s.peer e).incoming := by
      refine List.exists_mem_of_length_pos (Nat.lt_of_lt_of_le ?_ (Nat.le_of_not_lt hfull))
      decide
    have hne : d ≠ queued := fun heq => by
      have hnodup := (List.nodup_append.1 (hinv.nodup e)).2.2 queued (List.mem_append_right _ hqueued) d hc
      exact hnodup heq.symm
    have hgood := (hinv.good e).accepted
    exact loses_of_two hinv htied hlost (List.mem_append_right _ hc)
      (List.mem_append_left _ (List.mem_append_right _ hqueued)) hne (hgood d (List.mem_append_right _ hc))
      (hgood queued (List.mem_append_left _ hqueued))

end

/-! ## Every step -/

section
variable {s s' : Sys} {e : End}

theorem moves_move {p : Peer} {closes : List Conn} (gone : List Conn) (hgood : p.Good key e)
    (hperm : (s.peer e).conns.Perm (p.conns ++ gone)) (hcloses : closes ⊆ gone)
    (hgone : gone ⊆ closes ++ s.closed) : Moves key s (s.move e (p, closes)) e closes := by
  have hpeer : (s.move e (p, closes)).peer e = p := Function.update_self ..
  refine ⟨fun _ hne => Function.update_of_ne hne _ _, ?_, ⟨gone, ?_, hcloses, hgone⟩, rfl, rfl, rfl,
    fun _ hc => .inl hc, rfl⟩
  · rw [hpeer]
    exact hgood
  · rw [hpeer]
    exact hperm

/-- An end that closes nothing lets go of what is closed. -/
theorem moves_gone {p : Peer} (gone : List Conn) (hgood : p.Good key e)
    (hperm : (s.peer e).conns.Perm (p.conns ++ gone)) (hgone : ∀ c ∈ gone, c ∈ s.closed) :
    Moves key s (s.move e (p, [])) e [] :=
  moves_move gone hgood hperm (List.nil_subset _) hgone

/-- A connection of the end is established. -/
theorem Moves.establish {closes : List Conn} (h : Moves key s s' e closes) {c : Conn} (hc : c ∈ (s.peer e).conns) :
    Moves key s { s' with established := c :: s'.established } e closes where
  others := h.others
  good := h.good
  perm := h.perm
  closed := h.closed
  dials := h.dials
  nextNumber := h.nextNumber
  established d hd := by
    obtain rfl | hold := List.mem_cons.1 hd
    · exact .inr hc
    · exact h.established d hold
  lost := h.lost

/-- The end of a dial: it is the acquire's, or it failed on a connection that is closed. -/
theorem dialEnded_moves (hinv : Inv key s) {dialed d pendingIncoming : Option Conn}
    (hphase : (s.peer e).phase = .acquiring d pendingIncoming)
    (hdialed : dialed = d ∨ dialed = none ∧ ∀ c, d = some c → c ∈ s.closed) :
    Moves key s (s.dialEnded key e dialed pendingIncoming) e (acquireDialed key e dialed pendingIncoming).2 := by
  have hgood := (hinv.good e).acquired ((hinv.good e).idle hphase) (acquireDialed key e dialed pendingIncoming).1
  have hkept := acquireDialed_perm key e dialed pendingIncoming
  have hconns : (s.peer e).conns =
      d.toList ++ pendingIncoming.toList ++ ((s.peer e).incoming ++ (s.peer e).handshakes) := by
    rw [Peer.conns, hphase, List.append_assoc]
    rfl
  rw [show s.dialEnded key e dialed pendingIncoming = s.move e ((s.peer e).acquired
    (acquireDialed key e dialed pendingIncoming).1, (acquireDialed key e dialed pendingIncoming).2) from rfl]
  generalize acquireDialed key e dialed pendingIncoming = ended at hgood hkept ⊢
  obtain rfl | ⟨rfl, hclosed⟩ := hdialed
  · refine moves_move _ hgood ?_ (List.Subset.refl _) (List.subset_append_left _ _)
    rw [hconns, Peer.conns_acquired]
    refine (hkept.append_right _).trans (List.perm_iff_count.2 fun a => ?_)
    simp only [List.count_append]
    omega
  · refine moves_move (d.toList ++ ended.2) hgood ?_ (List.subset_append_right _ _) fun c hc => ?_
    · rw [hconns, Peer.conns_acquired]
      refine List.perm_iff_count.2 fun a => ?_
      have hcount := hkept.count_eq a
      simp only [List.count_append, Option.toList, List.count_nil] at hcount ⊢
      omega
    · obtain hd | hc := List.mem_append.1 hc
      · exact List.mem_append_right _ (hclosed c (Option.mem_toList.1 hd))
      · exact List.mem_append_left _ hc

/-- A dial is a connection of both ends. -/
theorem dialed_inv (hinv : Inv key s) {pendingIncoming : Option Conn}
    (hphase : (s.peer e).phase = .acquiring none pendingIncoming) (h : s.step key (.dialed e) = some s') :
    Inv key s' ∧ s'.closed = s.closed ∧ s.dials ⊆ s'.dials ∧ s'.lost = s.lost := by
  simp only [Sys.step, hphase, Option.some.injEq] at h
  generalize hc : (⟨e, s.nextNumber⟩ : Conn) = c at h
  have hself : s'.peer e = { s.peer e with phase := .acquiring (some c) pendingIncoming } := by
    rw [← h]
    exact (Function.update_of_ne (End.other_ne e).symm _ _).trans (Function.update_self ..)
  have hother : s'.peer e.other = { s.peer e.other with handshakes := c :: (s.peer e.other).handshakes } := by
    rw [← h]
    exact Function.update_self ..
  have hperm : ∀ o, (s'.peer o).conns.Perm (c :: (s.peer o).conns) := fun o => by
    obtain rfl | rfl := End.eq_or_eq_other e o
    · rw [hself, Peer.conns, Peer.conns, hphase]
      exact .refl _
    · rw [hother]
      exact List.perm_middle
  have hdials : s'.dials = c :: s.dials := by rw [← h]
  have hclosed : s'.closed = s.closed := by rw [← h]
  have hnew : ∀ o, c ∉ (s.peer o).conns := fun o hmem => by
    have hlt := hinv.fresh c (hinv.known o c hmem)
    rw [← hc] at hlt
    exact Nat.lt_irrefl _ hlt
  refine ⟨⟨fun o => ?_, fun d hd hopen o => ?_, fun o => ?_, fun o d hd => ?_, fun d hd => ?_, fun d hd => ?_⟩, hclosed,
    ?_, ?_⟩
  · have hgood := hinv.good o
    obtain rfl | rfl := End.eq_or_eq_other e o
    · rw [hself]
      refine ⟨fun d _ heq => ?_, fun _ d heq => ?_, hgood.accepted, hgood.idle hphase⟩
      · cases heq
        exact congrArg Conn.dialer hc.symm
      · cases heq
        exact hgood.pending none d hphase
    · rw [hother]
      refine ⟨hgood.dialed, hgood.pending, fun d hd => ?_, hgood.signals⟩
      rw [List.mem_append, List.mem_cons] at hd
      obtain hd | rfl | hd := hd
      · exact hgood.accepted d (List.mem_append_left _ hd)
      · rw [← hc, End.other_other]
      · exact hgood.accepted d (List.mem_append_right _ hd)
  · rw [(hperm o).mem_iff, List.mem_cons]
    rw [hdials, List.mem_cons] at hd
    exact hd.imp_right fun hold => hinv.held d hold (hclosed ▸ hopen) o
  · exact (hperm o).nodup_iff.2 (List.nodup_cons.2 ⟨hnew o, hinv.nodup o⟩)
  · rw [(hperm o).mem_iff, List.mem_cons] at hd
    rw [hdials, List.mem_cons]
    exact hd.imp_right (hinv.known o d)
  · have hnext : s'.nextNumber = s.nextNumber + 1 := by rw [← h]
    rw [hnext]
    rw [hdials, List.mem_cons] at hd
    obtain rfl | hold := hd
    · rw [← hc]
      exact Nat.lt_succ_self _
    · exact Nat.lt_succ_of_lt (hinv.fresh d hold)
  · have hestablished : s'.established = s.established := by rw [← h]
    rw [hdials]
    exact List.mem_cons_of_mem _ (hinv.established d (hestablished ▸ hd))
  · rw [hdials]
    exact List.subset_cons_self ..
  · rw [← h]

/-- **One step keeps what both ends hold, and closes what loses the tie.** -/
theorem step_inv (hkey : key .left ≠ key .right) {event : Event} (h : Inv key s ∧ Tied key s)
    (hs : s.step key event = some s') : Inv key s' ∧ Tied key s' := by
  obtain ⟨hinv, htied⟩ := h
  have moved : ∀ {e : End} {closes : List Conn}, Moves key s s' e closes →
      (s.lost = [] → ∀ c ∈ closes, Loses key s c) → Inv key s' ∧ Tied key s' :=
    fun hmoves hloses => ⟨hmoves.inv hinv, hmoves.tied htied hloses⟩
  cases event with
  | dialed e =>
    have hs' := hs
    simp only [Sys.step] at hs
    split at hs
    · next pendingIncoming hphase =>
      obtain ⟨hinv', hclosed, hdials, hlost⟩ := dialed_inv hinv hphase hs'
      refine ⟨hinv', fun hnone c hc => ?_⟩
      obtain ⟨hsmaller, d, hd, hdialer⟩ := htied (hlost ▸ hnone) c (hclosed ▸ hc)
      exact ⟨hsmaller, d, hdials hd, hdialer⟩
    · cases hs
  | unavailable e =>
    simp only [Sys.step] at hs
    split at hs
    · next pendingIncoming hphase =>
      cases hs
      exact moved (dialEnded_moves hinv hphase (.inl rfl)) fun _ _ hc =>
        acquireDialed_loses hkey hinv hphase (fun _ heq => heq) hc
    · cases hs
  | establish e =>
    simp only [Sys.step] at hs
    split at hs
    · next c pendingIncoming hphase =>
      cases hs
      exact moved ((dialEnded_moves hinv hphase (.inl rfl)).establish (by simp [Peer.conns, hphase, Phase.conns]))
        fun _ _ hc => acquireDialed_loses hkey hinv hphase (fun _ heq => heq) hc
    · cases hs
  | refused e =>
    simp only [Sys.step] at hs
    split at hs
    · next c pendingIncoming hphase =>
      obtain ⟨hclosed, heq⟩ := Option.ite_none_right_eq_some.1 hs
      cases heq
      exact moved (dialEnded_moves hinv hphase (.inr ⟨rfl, fun d hd => Option.some.inj hd ▸ hclosed⟩)) fun _ _ hc =>
        acquireDialed_loses hkey hinv hphase (fun _ hno => (by cases hno)) hc
    · cases hs
  | accept e c =>
    obtain ⟨hc, heq⟩ := Option.ite_none_right_eq_some.1 hs
    cases heq
    have hmoves := moves_move _ ((hinv.good e).accept hc) (accept_perm (s.peer e) hc) (List.Subset.refl _)
      (List.subset_append_left _ s.closed)
    exact moved (hmoves.establish (List.mem_append_right _ hc)) fun hlost _ hd => accept_loses hinv htied hlost hc hd
  | abort e c =>
    obtain ⟨⟨hc, hclosed⟩, heq⟩ := Option.ite_none_right_eq_some.1 hs
    cases heq
    have hgood := hinv.good e
    refine moved (moves_gone [c] ⟨hgood.dialed, hgood.pending, fun d hd => ?_, hgood.signals⟩ ?_ fun d hd => ?_)
      fun _ _ hno => (by cases hno)
    · exact hgood.accepted d (List.mem_append.2 ((List.mem_append.1 hd).imp_right List.mem_of_mem_erase))
    · refine List.perm_iff_count.2 fun a => ?_
      have hcount := (List.perm_cons_erase hc).count_eq a
      simp only [Peer.conns, List.count_append, List.count_cons, List.count_nil] at hcount ⊢
      omega
    · rw [List.mem_singleton.1 hd]
      exact hclosed
  | receive e =>
    simp only [Sys.step] at hs
    split at hs
    · next candidate incoming hincoming =>
      cases hs
      have hgood := hinv.good e
      have hrest : ({ s.peer e with incoming := incoming } : Peer).Good key e :=
        ⟨hgood.dialed, hgood.pending, fun c hc => hgood.accepted c (by
          rw [hincoming]
          exact List.mem_cons_of_mem _ hc), hgood.signals⟩
      refine moved (moves_move _ (hrest.takeIncoming (hgood.accepted candidate (by simp [hincoming]))) ?_
        (List.Subset.refl _) (List.subset_append_left _ s.closed)) fun hlost _ hc =>
          takeIncoming_loses hkey hinv htied hlost hincoming hc
      refine .trans (List.perm_iff_count.2 fun a => ?_) (takeIncoming_perm _ e candidate)
      simp only [Peer.conns, hincoming, List.count_append, List.count_cons]
      omega
    · cases hs
  | elapsed e =>
    simp only [Sys.step] at hs
    split at hs
    · next hphase =>
      cases hs
      have hgood := hinv.good e
      have hidle : (s.peer e).signals = {} := by rw [hgood.signals, hphase]
      refine moved (moves_gone [] ⟨fun _ _ hno => (by cases hno), fun _ _ hno => (by cases hno), hgood.accepted,
        hidle⟩ ?_ fun _ hno => (by cases hno)) fun _ _ hno => (by cases hno)
      rw [List.append_nil, Peer.conns, hphase]
      exact .refl _
    · cases hs
  | notice e =>
    simp only [Sys.step] at hs
    split at hs
    · next c hphase =>
      obtain ⟨hclosed, heq⟩ := Option.ite_none_right_eq_some.1 hs
      cases heq
      have hgood := hinv.good e
      refine moved (moves_gone [c] ⟨fun _ _ hno => (by cases hno), fun _ _ hno => (by cases hno), hgood.accepted,
        rfl⟩ ?_ fun d hd => ?_) fun _ _ hno => (by cases hno)
      · rw [Peer.conns, hphase]
        exact (List.perm_append_singleton _ _).symm
      · rw [List.mem_singleton.1 hd]
        exact hclosed
    · cases hs
  | lose c =>
    obtain ⟨hc, heq⟩ := Option.ite_none_right_eq_some.1 hs
    cases heq
    exact ⟨⟨hinv.good, fun d hd hopen => hinv.held d hd fun hno => hopen (List.mem_cons_of_mem _ hno), hinv.nodup,
      hinv.known, hinv.fresh, hinv.established⟩, fun hno => (by cases hno)⟩

end

/-! ## Every run -/

theorem run_tied (hkey : key .left ≠ key .right) {events : List Event} (h : run (Sys.step key) {} events = some s) :
    Inv key s ∧ Tied key s :=
  run_inv (fun s => Inv key s ∧ Tied key s) (fun _ _ _ hs he => step_inv hkey hs he) events {} s
    ⟨inv_start, fun _ _ hno => (by cases hno)⟩ h

/-- **Once all is settled, both ends run a connection that nobody closed**, whatever was lost before. -/
theorem Inv.runs (hinv : Inv key s) (hquiet : s.Quiescent) (hc : c ∈ s.dials) (hopen : c ∉ s.closed) (e : End) :
    (s.peer e).phase = .running c ∧ (s.peer e).signals = ⟨.connected, some c⟩ := by
  have hsettled := hquiet e
  simp only [Sys.isSettled, Bool.and_eq_true, List.isEmpty_iff] at hsettled
  obtain ⟨⟨hhandshakes, hincoming⟩, hphases⟩ := hsettled
  have hheld := hinv.held c hc hopen e
  rw [Peer.conns, hhandshakes, hincoming, List.append_nil, List.append_nil] at hheld
  have hrunning : (s.peer e).phase = .running c := by
    cases hphase : (s.peer e).phase with
    | acquiring dialed pendingIncoming =>
      simp only [hphase, Bool.and_eq_true, Option.isNone_iff_eq_none] at hphases
      obtain ⟨rfl, rfl⟩ := hphases
      rw [hphase] at hheld
      cases hheld
    | waiting =>
      rw [hphase] at hheld
      cases hheld
    | running d =>
      rw [hphase, Phase.conns, List.mem_singleton] at hheld
      rw [hheld]
  refine ⟨hrunning, ?_⟩
  rw [(hinv.good e).signals, hrunning]

/-- Where a connection was dialed and none was lost, one is open. -/
theorem Tied.exists_open (hkey : key .left ≠ key .right) (htied : Tied key s) (hlost : s.lost = []) (hc : c ∈ s.dials) :
    ∃ d ∈ s.dials, d ∉ s.closed := by
  by_cases hclosed : c ∈ s.closed
  · obtain ⟨hsmaller, d, hd, hdialer⟩ := htied hlost c hclosed
    refine ⟨d, hd, htied.larger_open hlost ?_⟩
    rw [hdialer, isSmaller_other hkey, hsmaller]
    rfl
  · exact ⟨c, hc, hclosed⟩

/-- **The larger key never runs a closed connection.** -/
theorem Tied.larger_runs_open (hinv : Inv key s) (htied : Tied key s) (hlost : s.lost = []) {e : End}
    (hlarger : isSmaller key e = false) (hrunning : (s.peer e).phase = .running c) : c ∉ s.closed := fun hclosed => by
  obtain ⟨hsmaller, d, hd, hdialer⟩ := htied hlost c hclosed
  obtain hown | hother := End.eq_or_eq_other e c.dialer
  · rw [hown, hlarger] at hsmaller
    cases hsmaller
  · -- The connection that this end dialed is open, so it is the one that this end runs.
    rw [hother, End.other_other] at hdialer
    have hopen := htied.larger_open hlost (hdialer ▸ hlarger)
    obtain ⟨_, hphase⟩ | hphase := (hinv.good e).outgoing (hinv.held d hd hopen e) hdialer
    · rw [hrunning] at hphase
      cases hphase
    · rw [hrunning] at hphase
      cases hphase
      exact hopen hclosed

/-- **Two machines that dial each other never close each other's kept connection**, and once all is settled both run
their session on the same one. -/
theorem both_keep_one (hkey : key .left ≠ key .right) {events : List Event} {s : Sys}
    (h : run (Sys.step key) {} events = some s) (hlost : s.lost = []) :
    (∀ c d, (s.peer .left).phase = .running c → (s.peer .right).phase = .running d → c ∉ s.closed ∨ d ∉ s.closed) ∧
    (s.Quiescent → s.established ≠ [] → ∃ c, c ∉ s.closed ∧
      ∀ e, (s.peer e).phase = .running c ∧ (s.peer e).signals = ⟨.connected, some c⟩) := by
  obtain ⟨hinv, htied⟩ := run_tied hkey h
  refine ⟨fun c d hc hd => ?_, fun hquiet hestablished => ?_⟩
  · cases hsmaller : isSmaller key .left with
    | false => exact .inl (htied.larger_runs_open hinv hlost hsmaller hc)
    | true =>
      have hlarger := isSmaller_other hkey .left
      rw [hsmaller] at hlarger
      exact .inr (htied.larger_runs_open hinv hlost hlarger hd)
  · obtain ⟨c, hc⟩ := List.exists_mem_of_ne_nil _ hestablished
    obtain ⟨d, hd, hopen⟩ := htied.exists_open hkey hlost (hinv.established c hc)
    exact ⟨d, hopen, hinv.runs hquiet hd hopen⟩

/-! ## Two dials that cross -/

def sampleKey : End → PublicKey
  | .left => ⟨List.replicate 32 1, by decide⟩
  | .right => ⟨List.replicate 32 2, by decide⟩

/-- Each end runs the connection that it dialed before it takes the other's; the smaller key's is closed twice over. -/
def sampleCrossing : List Event :=
  [.dialed .left, .dialed .right, .establish .left, .establish .right, .accept .left ⟨.right, 1⟩,
    .accept .right ⟨.left, 0⟩, .receive .right, .notice .left, .receive .left]

theorem both_keep_one_crossing : ∃ s, run (Sys.step sampleKey) {} sampleCrossing = some s ∧
    s.closed = [⟨.left, 0⟩] ∧ ∃ c, c ∉ s.closed ∧
      ∀ e, (s.peer e).phase = .running c ∧ (s.peer e).signals = ⟨.connected, some c⟩ := by
  have hkey : sampleKey .left ≠ sampleKey .right := by decide
  refine ⟨_, rfl, by decide +kernel, (@both_keep_one sampleKey hkey sampleCrossing _ rfl rfl).2 ?_ (by decide +kernel)⟩
  intro e
  cases e <;> decide +kernel

end Dial
end Flow
end OpenLogi
