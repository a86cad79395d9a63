import Mathlib.Data.List.Perm.Basic
import OpenLogi.Lib.Run
import OpenLogi.Flow.Gate
/-!
# Agreement — two sessions and the messages between them

Each side's inbox holds what is on its way to it; a delivery takes any of it, so confirmations overtake reveals and
outcomes come late.  `Opened` says what holds from the reveal on, for both sides alike: the one lemma `Ready.settle`
keeps it across every call, given what that call does to its own session.
-/
namespace OpenLogi
namespace Flow

open Lib (run Along along_inv)

/-- A message on its way. -/
inductive Msg where
  | start (m : PairStart)
  | prompted (m : PairPrompted)
  | reveal (m : PairReveal)
  | revealed
  | confirm
  | outcome (m : PairOutcome)
  deriving DecidableEq

def PairingRole.other : PairingRole → PairingRole
  | .initiator => .responder
  | .responder => .initiator

@[simp] theorem PairingRole.other_other (r : PairingRole) : r.other.other = r := by cases r <;> rfl

theorem PairingRole.other_ne (r : PairingRole) : r.other ≠ r := by cases r <;> exact nofun

theorem PairingRole.eq_or_other (r t : PairingRole) : t = r ∨ t = r.other := by cases r <;> cases t <;> simp [other]

/-- The two parties of one connection: their identities and hellos, and the nonces they draw. -/
structure Setup where
  key : PairingRole → PublicKey
  hello : PairingRole → HelloDigest
  nonce : PairingRole → PairingNonce
  timeout : Option Nat

namespace Setup

def session (u : Setup) (role : PairingRole) : PairingSession :=
  .new (u.key role) (u.key role.other) (u.hello role) (u.hello role.other)

def party (u : Setup) (role : PairingRole) : PairingParty := ⟨u.key role, u.hello role, u.nonce role⟩

end Setup

/-- The sessions of both sides, what is on its way to each, whose user has confirmed, the errors that calls returned
and the answers of stores that refused a key. -/
structure Net where
  session : PairingRole → PairingSession
  inbox : PairingRole → List Msg
  asked : PairingRole → Bool
  errors : List PairingError
  refusals : List PersistPeerKeyError

inductive NetEvent where
  /-- The `i`-th message on its way to `role` arrives. -/
  | deliver (role : PairingRole) (i now : Nat) (answer : Except PersistPeerKeyError Unit)
  /-- The user of `role` confirms the code that is shown. -/
  | confirm (role : PairingRole) (now : Nat) (answer : Except PersistPeerKeyError Unit)
  /-- `role` looks at its deadline. -/
  | tick (role : PairingRole) (now : Nat)

variable (crypto : Crypto) (u : Setup)

/-- A message handled: the reply, the session after it and its writes. -/
def PairingSession.handle (nonce : PairingNonce) (s : PairingSession) (msg : Msg) (now : Nat)
    (answer : Except PersistPeerKeyError Unit) : Except PairingError (Option Msg) × PairingSession × List Write :=
  match msg with
  | .start m => ((s.receiveStart m nonce now u.timeout).1.map (fun m => some (.prompted m)),
      (s.receiveStart m nonce now u.timeout).2, [])
  | .prompted m => ((s.receivePrompted crypto m now).1.map (fun m => some (.reveal m)),
      (s.receivePrompted crypto m now).2, [])
  | .reveal m => ((s.receiveReveal crypto m now).1.map (fun _ => some .revealed), (s.receiveReveal crypto m now).2, [])
  | .revealed => ((s.receiveRevealed now).1.map (fun _ => none), (s.receiveRevealed now).2, [])
  | .confirm =>
    ((s.receiveConfirm now (logging answer) []).1.map (fun m => some (.outcome m)),
      (s.receiveConfirm now (logging answer) []).2.1, (s.receiveConfirm now (logging answer) []).2.2)
  | .outcome m => ((s.receiveOutcome m).1.map (fun _ => none), (s.receiveOutcome m).2, [])

/-- What a refused write was answered. -/
def Write.refusal (w : Write) : Option PersistPeerKeyError :=
  match w.2 with
  | .ok () => none
  | .error e => some e

/-- What a confirmation tells the peer: nothing once the code has expired. -/
def toPeer : PairResult → Option Msg
  | .paired | .pendingLocal => some .confirm
  | _ => none

def replyOf : Except PairingError (Option Msg) → List Msg
  | .ok m => m.toList
  | .error _ => []

def errorOf : Except PairingError (Option Msg) → List PairingError
  | .ok _ => []
  | .error e => [e]

namespace Net

/-- The initiator has sent its commitment. -/
def start : Net where
  session := Function.update u.session .initiator
    ((u.session .initiator).start crypto (u.nonce .initiator)).2
  inbox
    | .initiator => []
    | .responder =>
      match ((u.session .initiator).start crypto (u.nonce .initiator)).1 with
      | .ok m => [.start m]
      | .error _ => []
  asked _ := false
  errors := []
  refusals := []

/-- A call of `role` took place: its reply is on its way. -/
def settle (n : Net) (role : PairingRole) (call : Except PairingError (Option Msg) × PairingSession × List Write) :
    Net where
  session := Function.update n.session role call.2.1
  inbox := Function.update n.inbox role.other (n.inbox role.other ++ replyOf call.1)
  asked := n.asked
  errors := n.errors ++ errorOf call.1
  refusals := n.refusals ++ call.2.2.filterMap Write.refusal

def step (n : Net) : NetEvent → Option Net
  | .deliver role i now answer =>
    (n.inbox role)[i]?.map fun msg =>
      { n with inbox := Function.update n.inbox role ((n.inbox role).eraseIdx i) }.settle role
        ((n.session role).handle crypto u (u.nonce role) msg now answer)
  | .confirm role now answer =>
    if (n.session role).sasCode.isSome then
      let call := (n.session role).confirmLocal now (logging answer) []
      some ({ n with asked := Function.update n.asked role true }.settle role (call.1.map toPeer, call.2))
    else none
  | .tick role now =>
    some { n with session := Function.update n.session role ((n.session role).checkTimeout now).2 }

/-- No deadline has passed where a call reads the clock. -/
def InTime (n : Net) : NetEvent → Prop
  | .deliver role _ now _ | .confirm role now _ | .tick role now =>
    ∀ deadline ∈ (n.session role).deadline, now < deadline.at_

instance decidableInTime (n : Net) (e : NetEvent) : Decidable (n.InTime e) := by
  cases e <;> dsimp only [InTime] <;> infer_instance

end Net

/-! ## One session from the reveal on -/

/-- This side's code is known, and nothing has ended the ceremony. -/
def Live (code : SasCode) : Phase → Prop
  | .awaitingRevealed c _ _ => c = code
  | .prompted p => p.code = code
  | .paired => True
  | _ => False

namespace Phase

def awaits : Phase → Bool
  | .awaitingRevealed _ _ _ => true
  | _ => false

/-- The side has confirmed, as far as this session knows. -/
def confirmed : Phase → ConfirmationSide → Bool
  | .awaitingRevealed _ _ peerConfirmed, .peer => peerConfirmed
  | .prompted p, .here => p.localConfirmed
  | .prompted p, .peer => p.peerConfirmed
  | .paired, _ => true
  | _, _ => false

/-- Both confirmed and yet not paired: the store has refused the key. -/
def stuck : Phase → Bool
  | .prompted p => p.localConfirmed && p.peerConfirmed
  | _ => false

end Phase

/-- What a confirmation in time does to a session whose code is known. -/
structure Confirmed (code : SasCode) (side : ConfirmationSide) (s : PairingSession)
    (call : Except PairingError PairResult × PairingSession × List Write) : Prop where
  live : Live code call.2.1.phase
  awaits : call.2.1.phase.awaits = s.phase.awaits
  keeps : ∀ other, s.phase.confirmed other = true → call.2.1.phase.confirmed other = true
  confirmed : call.2.1.phase.confirmed side = true
  answers : (call.1 = .ok .paired ∨ call.1 = .ok .pendingLocal) ∧ call.2.2.filterMap Write.refusal = [] ∧
      (s.phase.stuck = false → call.2.1.phase.stuck = false) ∨
    ∃ e, call.1 = .error (.persistence e) ∧ call.2.2.filterMap Write.refusal = [e]

variable {crypto u} {s : PairingSession} {code : SasCode} {now : Nat}

theorem mark_confirmed (p : Prompted) (side other : ConfirmationSide) :
    (Phase.prompted (p.mark side)).confirmed other = ((Phase.prompted p).confirmed other || decide (other = side)) := by
  cases side <;> cases other <;> simp [Phase.confirmed, Prompted.mark]

theorem mark_code (p : Prompted) (side : ConfirmationSide) : (p.mark side).code = p.code := by cases side <;> rfl

theorem confirmPrompted_confirmed {p : Prompted} (side : ConfirmationSide) (answer : Except PersistPeerKeyError Unit)
    (hp : s.phase = .prompted p) (hl : Live code s.phase) (hin : ∀ deadline ∈ s.deadline, now < deadline.at_) :
    Confirmed code side s (s.confirmPrompted side now (logging answer) []) := by
  have hexp : p.deadline.expired now = false := by
    have := hin p.deadline (by simp [PairingSession.deadline, hp])
    simp [Deadline.expired]
    omega
  have hcode : p.code = code := by rw [hp] at hl; exact hl
  cases hb : (p.mark side).localConfirmed && (p.mark side).peerConfirmed with
  | false =>
    have hcall : s.confirmPrompted side now (logging answer) [] =
        (.ok .pendingLocal, { s with phase := .prompted (p.mark side) }, []) := by
      simp [PairingSession.confirmPrompted, hp, hexp, hb]
    rw [hcall]
    refine ⟨(mark_code p side).trans hcode, by rw [hp]; rfl, fun other ho => ?_, ?_, .inl ⟨.inr rfl, rfl, fun _ => hb⟩⟩
    · rw [hp] at ho
      simp only [mark_confirmed, ho, Bool.true_or]
    · simp [mark_confirmed]
  | true =>
    cases answer with
    | error e =>
      have hcall : s.confirmPrompted side now (logging (.error e)) [] =
          (.error (.persistence e), { s with phase := .prompted (p.mark side) }, [(s.peerKey, .error e)]) := by
        simp [PairingSession.confirmPrompted, hp, hexp, hb, logging]
      rw [hcall]
      refine ⟨(mark_code p side).trans hcode, by rw [hp]; rfl, fun other ho => ?_, ?_, .inr ⟨e, rfl, rfl⟩⟩
      · rw [hp] at ho
        simp only [mark_confirmed, ho, Bool.true_or]
      · simp [mark_confirmed]
    | ok _ =>
      have hcall : s.confirmPrompted side now (logging (.ok ())) [] =
          (.ok .paired, s.terminal .paired, [(s.peerKey, .ok ())]) := by
        simp [PairingSession.confirmPrompted, hp, hexp, hb, logging, PairingSession.terminal]
      rw [hcall]
      refine ⟨trivial, by rw [hp]; rfl, fun other _ => rfl, rfl, .inl ⟨.inl rfl, rfl, fun _ => rfl⟩⟩

/-- **A confirmation in time**, of this side's user once the code is shown or of the peer at any time. -/
theorem confirm_confirmed (side : ConfirmationSide) (answer : Except PersistPeerKeyError Unit)
    (hl : Live code s.phase) (hs : side = .here → s.phase.awaits = false)
    (hin : ∀ deadline ∈ s.deadline, now < deadline.at_) :
    Confirmed code side s (s.confirm side now (logging answer) []) := by
  cases hp : s.phase with
  | prompted p =>
    have hcall : s.confirm side now (logging answer) [] = s.confirmPrompted side now (logging answer) [] := by
      cases side <;> simp [PairingSession.confirm, hp]
    rw [hcall]
    exact confirmPrompted_confirmed side answer hp hl hin
  | paired =>
    have hcall : s.confirm side now (logging answer) [] = (.ok .paired, s, []) := by
      simp [PairingSession.confirm, hp]
    rw [hcall]
    exact ⟨hl, rfl, fun _ h => h, by rw [hp]; rfl, .inl ⟨.inl rfl, rfl, id⟩⟩
  | awaitingRevealed c deadline peerConfirmed =>
    rw [hp] at hs hl
    have hside : side = .peer := by
      cases side with
      | here => cases hs rfl
      | peer => rfl
    subst hside
    have hexp : deadline.expired now = false := by
      have := hin deadline (by simp [PairingSession.deadline, hp])
      simp [Deadline.expired]
      omega
    have hcall : s.confirm .peer now (logging answer) [] =
        (.ok .pendingLocal, { s with phase := .awaitingRevealed c deadline true }, []) := by
      simp [PairingSession.confirm, hp, hexp]
    rw [hcall]
    refine ⟨hl, by rw [hp]; rfl, fun other ho => ?_, rfl, .inl ⟨.inr rfl, rfl, fun _ => rfl⟩⟩
    rw [hp] at ho
    cases other with
    | here => cases ho
    | peer => rfl
  | _ =>
    rw [hp] at hl
    cases hl

/-- The reveal answered: the code is shown, with a confirmation that overtook the answer. -/
theorem receiveRevealed_live (hl : Live code s.phase) (ha : s.phase.awaits = true)
    (hin : ∀ deadline ∈ s.deadline, now < deadline.at_) :
    (s.receiveRevealed now).1 = .ok () ∧ Live code (s.receiveRevealed now).2.phase ∧
      (s.receiveRevealed now).2.phase.awaits = false ∧ (s.receiveRevealed now).2.phase.stuck = false ∧
      ∀ side, s.phase.confirmed side = true → (s.receiveRevealed now).2.phase.confirmed side = true := by
  cases hp : s.phase with
  | awaitingRevealed c deadline peerConfirmed =>
    rw [hp] at hl
    have hexp : deadline.expired now = false := by
      have := hin deadline (by simp [PairingSession.deadline, hp])
      simp [Deadline.expired]
      omega
    have hcall : s.receiveRevealed now =
        (.ok (), { s with phase := .prompted { Prompted.new c deadline with peerConfirmed } }) := by
      simp [PairingSession.receiveRevealed, hp, hexp]
    rw [hcall]
    refine ⟨rfl, hl, rfl, by simp [Phase.stuck, Prompted.new], fun side hc => ?_⟩
    cases side with
    | here => cases hc
    | peer => exact hc
  | _ =>
    rw [hp] at ha
    cases ha

/-- An outcome of a confirmation this side sent changes nothing. -/
theorem receiveOutcome_live {result : PairResult} (hl : Live code s.phase) (hc : s.phase.confirmed .here = true)
    (hr : result = .paired ∨ result = .pendingLocal) : s.receiveOutcome (pairOutcome result) = (.ok (), s) := by
  cases hp : s.phase with
  | prompted p =>
    rw [hp] at hc
    have hlocal : p.localConfirmed = true := hc
    rcases hr with rfl | rfl <;>
      simp [PairingSession.receiveOutcome, pairOutcome, hp, hlocal, PairingSession.ensurePrompted]
  | paired => rcases hr with rfl | rfl <;> simp [PairingSession.receiveOutcome, pairOutcome, hp]
  | awaitingRevealed =>
    rw [hp] at hc
    cases hc
  | _ =>
    rw [hp] at hl
    cases hl

theorem checkTimeout_inTime (hin : ∀ deadline ∈ s.deadline, now < deadline.at_) : (s.checkTimeout now).2 = s := by
  unfold PairingSession.checkTimeout
  split
  · rfl
  · rename_i deadline hd
    have hlt := hin deadline hd
    rw [if_neg (by simp [Deadline.expired]; omega)]

/-! ## Both sessions from the reveal on -/

/-- The outcomes honest sessions answer with. -/
def Msg.isOutcome : Msg → Bool
  | .outcome ⟨.known .paired⟩ | .outcome ⟨.known .pendingLocal⟩ => true
  | _ => false

/-- **From the reveal on**: both sides hold the code, the answer to the reveal is on its way exactly while it is waited
for, every other message is of a confirmation its sender stands by, and no confirmation is lost. -/
structure Ready (code : SasCode) (n : Net) : Prop where
  live : ∀ r, Live code (n.session r).phase
  awaits : ∀ r, (n.inbox r).count .revealed = (n.session r).phase.awaits.toNat
  kinds : ∀ r, ∀ m ∈ n.inbox r, m = .revealed ∨ m = .confirm ∨ m.isOutcome = true
  sent : ∀ r, .confirm ∈ n.inbox r.other → (n.session r).phase.confirmed .here = true
  answered : ∀ r, ∀ m ∈ n.inbox r, m.isOutcome = true → (n.session r).phase.confirmed .here = true
  errors : n.errors = n.refusals.map .persistence
  asked : n.refusals = [] → ∀ r, n.asked r = true → (n.session r).phase.confirmed .here = true ∧
    (.confirm ∈ n.inbox r.other ∨ (n.session r.other).phase.confirmed .peer = true)
  stuck : n.refusals = [] → ∀ r, (n.session r).phase.stuck = false

/-- What a call of `role` does: the session after it, what is left in its inbox, what it tells the other side and what
the store refused. -/
structure Does (code : SasCode) (n : Net) (role : PairingRole) (session : PairingSession) (left reply : List Msg)
    (refused : List PersistPeerKeyError) : Prop where
  live : Live code session.phase
  inbox : ∀ m ∈ left, m ∈ n.inbox role
  awaits : left.count .revealed = session.phase.awaits.toNat
  keeps : ∀ side, (n.session role).phase.confirmed side = true → session.phase.confirmed side = true
  reply : ∀ m ∈ reply, (m = .confirm ∧ session.phase.confirmed .here = true) ∨
    (m.isOutcome = true ∧ (n.session role.other).phase.confirmed .here = true)
  taken : .confirm ∈ n.inbox role → .confirm ∈ left ∨ session.phase.confirmed .peer = true
  stuck : refused = [] → (n.session role).phase.stuck = false → session.phase.stuck = false

variable {role : PairingRole} {i : Nat} {answer : Except PersistPeerKeyError Unit}

/-- **Every such call keeps both sides ready.** -/
theorem Ready.settle {n n' : Net} {session : PairingSession} {left reply : List Msg}
    {refused : List PersistPeerKeyError} (h : Ready code n) (hd : Does code n role session left reply refused)
    (hs : n'.session = Function.update n.session role session)
    (hi : n'.inbox = Function.update (Function.update n.inbox role left) role.other (n.inbox role.other ++ reply))
    (ha : ∀ r, n'.asked r = true → refused = [] → n.asked r = true ∨ (r = role ∧ .confirm ∈ reply))
    (hr : n'.refusals = n.refusals ++ refused) (he : n'.errors = n.errors ++ refused.map .persistence) :
    Ready code n' := by
  have hne := role.other_ne
  have hs1 : n'.session role = session := by rw [hs, Function.update_self]
  have hs2 : n'.session role.other = n.session role.other := by rw [hs, Function.update_of_ne hne]
  have hi1 : n'.inbox role = left := by rw [hi, Function.update_of_ne hne.symm, Function.update_self]
  have hi2 : n'.inbox role.other = n.inbox role.other ++ reply := by rw [hi, Function.update_self]
  have hnone : n'.refusals = [] → n.refusals = [] ∧ refused = [] := fun hn => by
    rw [hr] at hn
    exact List.append_eq_nil_iff.1 hn
  have hrevealed : .revealed ∉ reply := fun hm => by
    rcases hd.reply _ hm with ⟨hc, -⟩ | ⟨hc, -⟩ <;> cases hc
  -- a message on its way to `role` was so before; one to the other side may be the reply
  have hother : ∀ m ∈ n'.inbox role.other, m ∈ n.inbox role.other ∨ m ∈ reply := fun m hm => by
    rw [hi2] at hm
    exact List.mem_append.1 hm
  refine ⟨fun r => ?_, fun r => ?_, fun r => ?_, fun r => ?_, fun r => ?_, ?_, fun hn r => ?_, fun hn r => ?_⟩ <;>
    (try rcases role.eq_or_other r with rfl | rfl)
  · rw [hs1]
    exact hd.live
  · rw [hs2]
    exact h.live _
  · rw [hi1, hs1]
    exact hd.awaits
  · rw [hi2, hs2, List.count_append, List.count_eq_zero_of_not_mem hrevealed]
    exact h.awaits _
  · intro m hm
    rw [hi1] at hm
    exact h.kinds _ m (hd.inbox m hm)
  · intro m hm
    rcases hother m hm with hm | hm
    · exact h.kinds _ m hm
    · rcases hd.reply m hm with ⟨hc, -⟩ | ⟨hc, -⟩
      · exact .inr (.inl hc)
      · exact .inr (.inr hc)
  · intro hm
    rw [hs1]
    rcases hother _ hm with hm | hm
    · exact hd.keeps _ (h.sent _ hm)
    · rcases hd.reply _ hm with ⟨-, hc⟩ | ⟨hc, -⟩
      · exact hc
      · cases hc
  · intro hm
    rw [PairingRole.other_other, hi1] at hm
    rw [hs2]
    exact h.sent role.other (by rw [PairingRole.other_other]; exact hd.inbox _ hm)
  · intro m hm ho
    rw [hi1] at hm
    rw [hs1]
    exact hd.keeps _ (h.answered _ m (hd.inbox m hm) ho)
  · intro m hm ho
    rw [hs2]
    rcases hother m hm with hm | hm
    · exact h.answered _ m hm ho
    · rcases hd.reply m hm with ⟨hc, -⟩ | ⟨-, hc⟩
      · rw [hc] at ho
        cases ho
      · exact hc
  · rw [he, hr, List.map_append, h.errors]
  · intro hask
    rw [hs1, hs2, hi2]
    rcases ha _ hask (hnone hn).2 with hask | ⟨-, hc⟩
    · obtain ⟨hh, hp⟩ := h.asked (hnone hn).1 _ hask
      exact ⟨hd.keeps _ hh, hp.imp_left (List.mem_append_left _)⟩
    · rcases hd.reply _ hc with ⟨-, hh⟩ | ⟨ho, -⟩
      · exact ⟨hh, .inl (List.mem_append_right _ hc)⟩
      · cases ho
  · intro hask
    rw [PairingRole.other_other, hs1, hs2, hi1]
    rcases ha _ hask (hnone hn).2 with hask | ⟨hr', -⟩
    · obtain ⟨hh, hp⟩ := h.asked (hnone hn).1 _ hask
      rw [PairingRole.other_other] at hp
      refine ⟨hh, ?_⟩
      rcases hp with hp | hp
      · exact hd.taken hp
      · exact .inr (hd.keeps _ hp)
    · exact absurd hr' hne
  · rw [hs1]
    exact hd.stuck (hnone hn).2 (h.stuck (hnone hn).1 _)
  · rw [hs2]
    exact h.stuck (hnone hn).1 _

/-- `settle` at the call that took place. -/
theorem Ready.call {n : Net} {left : List Msg} {asked : PairingRole → Bool}
    {call : Except PairingError (Option Msg) × PairingSession × List Write} (h : Ready code n)
    (hd : Does code n role call.2.1 left (replyOf call.1) (call.2.2.filterMap Write.refusal))
    (ha : ∀ r, asked r = true → call.2.2.filterMap Write.refusal = [] →
      n.asked r = true ∨ (r = role ∧ .confirm ∈ replyOf call.1))
    (he : errorOf call.1 = (call.2.2.filterMap Write.refusal).map .persistence) :
    Ready code ({ n with inbox := Function.update n.inbox role left, asked := asked }.settle role call) := by
  refine h.settle hd rfl ?_ ha rfl ?_
  · simp [Net.settle, role.other_ne]
  · rw [← he]
    rfl

/-- A message taken from an inbox leaves the others. -/
theorem perm_of_delivered {l : List Msg} {msg : Msg} (h : l[i]? = some msg) :
    l.Perm (msg :: l.eraseIdx i) := by
  obtain ⟨hi, rfl⟩ := List.getElem?_eq_some_iff.1 h
  exact (List.getElem_cons_eraseIdx_perm hi).symm

/-- **A delivery keeps both sides ready**, whichever message it takes. -/
theorem Ready.deliver {n n' : Net} (h : Ready code n) (hin : ∀ deadline ∈ (n.session role).deadline, now < deadline.at_)
    (hs : n.step crypto u (.deliver role i now answer) = some n') : Ready code n' := by
  obtain ⟨msg, hm, rfl⟩ := Option.map_eq_some_iff.1 hs
  have hperm := perm_of_delivered hm
  have hsub : ∀ m ∈ (n.inbox role).eraseIdx i, m ∈ n.inbox role := fun m hm' => List.mem_of_mem_eraseIdx hm'
  have hmem : msg ∈ n.inbox role := List.mem_of_getElem? hm
  have hcount := hperm.count_eq Msg.revealed
  rw [h.awaits] at hcount
  have hleft : ∀ m, m ∈ n.inbox role → m ≠ msg → m ∈ (n.inbox role).eraseIdx i := fun m hm' hne =>
    (List.mem_cons.1 (hperm.mem_iff.1 hm')).resolve_left hne
  rcases h.kinds _ msg hmem with rfl | rfl | ho
  · rw [List.count_cons_self] at hcount
    have hawaits : (n.session role).phase.awaits = true := by
      cases ha : (n.session role).phase.awaits with
      | true => rfl
      | false =>
        rw [ha, Bool.toNat_false] at hcount
        omega
    obtain ⟨hres, hlive, ha, hst, hk⟩ := receiveRevealed_live (h.live role) hawaits hin
    have hcall : (n.session role).handle crypto u (u.nonce role) .revealed now answer =
        (.ok none, ((n.session role).receiveRevealed now).2, []) := by
      simp only [PairingSession.handle, hres, Except.map]
    rw [hcall]
    refine h.call ⟨hlive, hsub, ?_, hk, fun m hm' => (by cases hm'), fun hc => .inl (hleft _ hc nofun),
      fun _ _ => hst⟩ (fun r hr _ => .inl hr) rfl
    rw [hawaits, Bool.toNat_true] at hcount
    rw [ha, Bool.toNat_false]
    omega
  · rw [List.count_cons_of_ne (show Msg.confirm ≠ .revealed from nofun)] at hcount
    have hsent : (n.session role.other).phase.confirmed .here = true :=
      h.sent role.other (by rw [PairingRole.other_other]; exact hmem)
    have hcall : (n.session role).handle crypto u (u.nonce role) .confirm now answer =
        ((((n.session role).confirm .peer now (logging answer) []).1.map pairOutcome).map fun m => some (.outcome m),
          ((n.session role).confirm .peer now (logging answer) []).2) := rfl
    obtain ⟨hlive, ha, hk, hconf, hans⟩ := confirm_confirmed .peer answer (h.live role) nofun hin
    rw [hcall]
    generalize (n.session role).confirm .peer now (logging answer) [] = call at hlive ha hk hconf hans ⊢
    refine h.call ⟨hlive, hsub, by rw [ha, hcount], hk, ?_, fun _ => .inr hconf, fun hno hst => ?_⟩
      (fun r hr _ => .inl hr) ?_
    · intro m hm'
      rcases hans with ⟨hres | hres, -⟩ | ⟨e, hres, -⟩ <;> rw [hres] at hm'
      · rw [List.mem_singleton.1 hm']
        exact .inr ⟨rfl, hsent⟩
      · rw [List.mem_singleton.1 hm']
        exact .inr ⟨rfl, hsent⟩
      · cases hm'
    · rcases hans with ⟨-, -, hstuck⟩ | ⟨e, -, hw⟩
      · exact hstuck hst
      · rw [hno] at hw
        cases hw
    · rcases hans with ⟨hres | hres, hw, -⟩ | ⟨e, hres, hw⟩ <;> rw [hres, hw] <;> rfl
  · have hc := h.answered role msg hmem ho
    obtain ⟨result, rfl, hr⟩ : ∃ result, msg = .outcome (pairOutcome result) ∧
        (result = .paired ∨ result = .pendingLocal) := by
      unfold Msg.isOutcome at ho
      split at ho
      · exact ⟨.paired, rfl, .inl rfl⟩
      · exact ⟨.pendingLocal, rfl, .inr rfl⟩
      · cases ho
    rw [List.count_cons_of_ne (show Msg.outcome (pairOutcome result) ≠ .revealed from nofun)] at hcount
    have hcall : (n.session role).handle crypto u (u.nonce role) (.outcome (pairOutcome result)) now answer =
        (.ok none, n.session role, []) := by
      simp only [PairingSession.handle, receiveOutcome_live (h.live role) hc hr, Except.map]
    rw [hcall]
    exact h.call ⟨h.live role, hsub, hcount.symm, fun _ h => h, fun m hm' => (by cases hm'),
      fun hc => .inl (hleft _ hc nofun), fun _ h => h⟩ (fun r hr _ => .inl hr) rfl

/-- **The user's confirmation keeps both sides ready.** -/
theorem Ready.confirm {n n' : Net} (h : Ready code n) (hin : ∀ deadline ∈ (n.session role).deadline, now < deadline.at_)
    (hs : n.step crypto u (.confirm role now answer) = some n') : Ready code n' := by
  by_cases hshown : (n.session role).sasCode.isSome = true
  · have hawaits : (n.session role).phase.awaits = false := by
      unfold PairingSession.sasCode at hshown
      split at hshown
      · rename_i hp
        rw [hp]
        rfl
      · cases hshown
    rw [Net.step, if_pos hshown] at hs
    obtain rfl := Option.some.inj hs
    have hself : { n with asked := Function.update n.asked role true } =
        { n with
          inbox := Function.update n.inbox role (n.inbox role)
          asked := Function.update n.asked role true } := by
      rw [Function.update_eq_self]
    obtain ⟨hlive, ha, hk, hconf, hans⟩ := confirm_confirmed .here answer (h.live role) (fun _ => hawaits) hin
    dsimp only [PairingSession.confirmLocal]
    rw [hself]
    generalize (n.session role).confirm .here now (logging answer) [] = call at hlive ha hk hconf hans ⊢
    refine h.call ⟨hlive, fun _ hm => hm, by rw [ha, h.awaits], hk, ?_, .inl, fun hno hst => ?_⟩ ?_ ?_
    · intro m hm
      rcases hans with ⟨hres | hres, -⟩ | ⟨e, hres, -⟩ <;> rw [hres] at hm
      · rw [List.mem_singleton.1 hm]
        exact .inl ⟨rfl, hconf⟩
      · rw [List.mem_singleton.1 hm]
        exact .inl ⟨rfl, hconf⟩
      · cases hm
    · rcases hans with ⟨-, -, hstuck⟩ | ⟨e, -, hw⟩
      · exact hstuck hst
      · rw [hno] at hw
        cases hw
    · intro r hr hno
      by_cases hrole : r = role
      · refine .inr ⟨hrole, ?_⟩
        rcases hans with ⟨hres | hres, -⟩ | ⟨e, -, hw⟩
        · rw [hres]
          exact List.mem_singleton.2 rfl
        · rw [hres]
          exact List.mem_singleton.2 rfl
        · rw [hno] at hw
          cases hw
      · rw [Function.update_of_ne hrole] at hr
        exact .inl hr
    · rcases hans with ⟨hres | hres, hw, -⟩ | ⟨e, hres, hw⟩ <;> rw [hres, hw] <;> rfl
  · rw [Net.step, if_neg hshown] at hs
    cases hs

/-! ## Up to the reveal -/

/-- The code of the transcript. -/
def Setup.sasCode (crypto : Crypto) (u : Setup) : SasCode := deriveSas crypto (u.party .initiator) (u.party .responder)

/-- Nobody has confirmed, and no call failed. -/
structure Fresh (n : Net) : Prop where
  asked : ∀ r, n.asked r = false
  errors : n.errors = []
  refusals : n.refusals = []

/-- **How far the ceremony is**: one message at a time up to the reveal, and ready from then on. -/
inductive Stage (crypto : Crypto) (u : Setup) (n : Net) : Prop
  | committed (fresh : Fresh n)
    (initiator : n.session .initiator =
      { u.session .initiator with role := some .initiator, phase := .awaitingPrompt (u.nonce .initiator) })
    (responder : n.session .responder = u.session .responder) (atInitiator : n.inbox .initiator = [])
    (atResponder : n.inbox .responder =
      [.start ⟨(commit crypto (u.key .initiator) (u.key .responder) (u.nonce .initiator)).val⟩])
  | prompted (deadline : Deadline) (timeoutMs : UInt32) (fresh : Fresh n)
    (initiator : n.session .initiator =
      { u.session .initiator with role := some .initiator, phase := .awaitingPrompt (u.nonce .initiator) })
    (responder : n.session .responder =
      { u.session .responder with
        role := some .responder
        phase := .awaitingReveal (commit crypto (u.key .initiator) (u.key .responder) (u.nonce .initiator))
          (u.nonce .responder) deadline })
    (atInitiator : n.inbox .initiator = [.prompted ⟨timeoutMs, (u.nonce .responder).val⟩])
    (atResponder : n.inbox .responder = [])
  | revealed (deadline deadline' : Deadline) (fresh : Fresh n)
    (initiator : (n.session .initiator).phase = .awaitingRevealed (u.sasCode crypto) deadline' false)
    (responder : n.session .responder =
      { u.session .responder with
        role := some .responder
        phase := .awaitingReveal (commit crypto (u.key .initiator) (u.key .responder) (u.nonce .initiator))
          (u.nonce .responder) deadline })
    (atInitiator : n.inbox .initiator = []) (atResponder : n.inbox .responder = [.reveal ⟨(u.nonce .initiator).val⟩])
  | ready (ready : Ready (u.sasCode crypto) n)

variable {n n' : Net}

theorem stage_start : Stage crypto u (.start crypto u) := by
  refine .committed ⟨fun _ => rfl, rfl, rfl⟩ ?_ ?_ rfl rfl
  · simp [Net.start, Setup.session, PairingSession.new, PairingSession.start, PairingSession.ensureIdle]
  · simp [Net.start]

/-- The one message on its way is delivered. -/
theorem delivered_one {msg : Msg} (hm : n.inbox role = [msg])
    (hs : n.step crypto u (.deliver role i now answer) = some n') :
    n' = { n with inbox := Function.update n.inbox role [] }.settle role
      ((n.session role).handle crypto u (u.nonce role) msg now answer) := by
  obtain ⟨m, hm', rfl⟩ := Option.map_eq_some_iff.1 hs
  rw [hm] at hm'
  cases i with
  | zero =>
    obtain rfl : msg = m := Option.some.inj hm'
    rw [hm]
    rfl
  | succ i => cases hm'

theorem not_delivered (hm : n.inbox role = []) : n.step crypto u (.deliver role i now answer) = none := by
  simp [Net.step, hm]

theorem Fresh.settle {inbox : PairingRole → List Msg} {reply : Option Msg} (h : Fresh n) :
    Fresh ({ n with inbox }.settle role (.ok reply, s, [])) :=
  ⟨h.asked, by simp [Net.settle, errorOf, h.errors], by simp [Net.settle, h.refusals]⟩

theorem ready_of_reveal (deadline deadline' : Deadline) (h : Fresh n)
    (hI : (n.session .initiator).phase = .awaitingRevealed code deadline false)
    (hR : (n.session .responder).phase = .prompted (.new code deadline'))
    (atInitiator : n.inbox .initiator = [.revealed]) (atResponder : n.inbox .responder = []) : Ready code n where
  live
    | .initiator => by rw [hI]; rfl
    | .responder => by rw [hR]; rfl
  awaits
    | .initiator => by rw [hI, atInitiator]; rfl
    | .responder => by rw [hR, atResponder]; rfl
  kinds
    | .initiator => by simp [atInitiator]
    | .responder => by simp [atResponder]
  sent
    | .initiator => by simp [PairingRole.other, atResponder]
    | .responder => by simp [PairingRole.other, atInitiator]
  answered
    | .initiator => by simp [atInitiator, Msg.isOutcome]
    | .responder => by simp [atResponder]
  errors := by rw [h.errors, h.refusals, List.map_nil]
  asked _ r hr := by
    rw [h.asked] at hr
    cases hr
  stuck _
    | .initiator => by rw [hI]; rfl
    | .responder => by rw [hR]; rfl

/-- **A delivery takes the ceremony on.** -/
theorem Stage.deliver (h : Stage crypto u n) (hin : ∀ deadline ∈ (n.session role).deadline, now < deadline.at_)
    (hs : n.step crypto u (.deliver role i now answer) = some n') : Stage crypto u n' := by
  cases h with
  | ready ready => exact .ready (ready.deliver hin hs)
  | committed fresh initiator responder atInitiator atResponder =>
    cases role with
    | initiator =>
      rw [not_delivered atInitiator] at hs
      cases hs
    | responder =>
      obtain rfl := delivered_one atResponder hs
      have hcall : (n.session .responder).handle crypto u (u.nonce .responder) (.start
          ⟨(commit crypto (u.key .initiator) (u.key .responder) (u.nonce .initiator)).val⟩) now answer =
        (.ok (some (.prompted ⟨(Deadline.new now (u.timeout.getD defaultPairingTimeout)).timeoutMs,
            (u.nonce .responder).val⟩)),
          { u.session .responder with
            role := some .responder
            phase := .awaitingReveal (commit crypto (u.key .initiator) (u.key .responder) (u.nonce .initiator))
              (u.nonce .responder) (.new now (u.timeout.getD defaultPairingTimeout)) }, []) := by
        simp [PairingSession.handle, responder, PairingSession.receiveStart, PairingSession.ensureIdle, Setup.session,
          PairingSession.new, Except.map]
      rw [hcall]
      refine .prompted (.new now (u.timeout.getD defaultPairingTimeout))
        (Deadline.new now (u.timeout.getD defaultPairingTimeout)).timeoutMs fresh.settle ?_ ?_ ?_ ?_
      · simpa [Net.settle] using initiator
      · simp [Net.settle]
      · simp [Net.settle, PairingRole.other, atInitiator, replyOf]
      · simp [Net.settle, PairingRole.other]
  | prompted deadline timeoutMs fresh initiator responder atInitiator atResponder =>
    cases role with
    | responder =>
      rw [not_delivered atResponder] at hs
      cases hs
    | initiator =>
      obtain rfl := delivered_one atInitiator hs
      let timeout := if timeoutMs = 0 then defaultPairingTimeout else timeoutMs.toNat * millis
      have hcall : (n.session .initiator).handle crypto u (u.nonce .initiator)
          (.prompted ⟨timeoutMs, (u.nonce .responder).val⟩) now answer =
        (.ok (some (.reveal ⟨(u.nonce .initiator).val⟩)),
          { n.session .initiator with phase := .awaitingRevealed (u.sasCode crypto) (.new now timeout) false }, []) :=
          by
        simp [PairingSession.handle, initiator, PairingSession.receivePrompted, Setup.session, PairingSession.new,
          Except.map, Setup.sasCode, Setup.party, PairingSession.localParty, PairingSession.peerParty,
          PairingRole.other, timeout]
      rw [hcall]
      refine .revealed deadline (.new now timeout) fresh.settle ?_ ?_ ?_ ?_
      · simp [Net.settle]
      · simpa [Net.settle] using responder
      · simp [Net.settle, PairingRole.other]
      · simp [Net.settle, PairingRole.other, atResponder, replyOf]
  | revealed deadline deadline' fresh initiator responder atInitiator atResponder =>
    cases role with
    | initiator =>
      rw [not_delivered atInitiator] at hs
      cases hs
    | responder =>
      obtain rfl := delivered_one atResponder hs
      have hexp : deadline.expired now = false := by
        have := hin deadline (by simp [PairingSession.deadline, responder])
        simp [Deadline.expired]
        omega
      have hcall : (n.session .responder).handle crypto u (u.nonce .responder)
          (.reveal ⟨(u.nonce .initiator).val⟩) now answer =
        (.ok (some .revealed),
          { n.session .responder with phase := .prompted (.new (u.sasCode crypto) deadline) }, []) := by
        simp [PairingSession.handle, responder, PairingSession.receiveReveal, Setup.session, PairingSession.new,
          Except.map, Setup.sasCode, Setup.party, PairingSession.localParty, PairingSession.peerParty,
          PairingRole.other, hexp]
      rw [hcall]
      refine .ready (ready_of_reveal deadline' deadline fresh.settle ?_ ?_ ?_ ?_)
      · simpa [Net.settle] using initiator
      · simp [Net.settle]
      · simp [Net.settle, PairingRole.other, atInitiator, replyOf]
      · simp [Net.settle, PairingRole.other]

theorem Stage.confirm (h : Stage crypto u n) (hin : ∀ deadline ∈ (n.session role).deadline, now < deadline.at_)
    (hs : n.step crypto u (.confirm role now answer) = some n') : Stage crypto u n' := by
  have hshown : (n.session role).sasCode.isSome = true := by
    by_contra hn
    rw [Net.step, if_neg hn] at hs
    cases hs
  cases h with
  | ready ready => exact .ready (ready.confirm hin hs)
  | committed _ initiator responder =>
    cases role with
    | initiator => simp [initiator, PairingSession.sasCode] at hshown
    | responder => simp [responder, PairingSession.sasCode, Setup.session, PairingSession.new] at hshown
  | prompted _ _ _ initiator responder =>
    cases role with
    | initiator => simp [initiator, PairingSession.sasCode] at hshown
    | responder => simp [responder, PairingSession.sasCode] at hshown
  | revealed _ _ _ initiator responder =>
    cases role with
    | initiator => simp [initiator, PairingSession.sasCode] at hshown
    | responder => simp [responder, PairingSession.sasCode] at hshown

theorem stage_step {e : NetEvent} (h : Stage crypto u n) (hin : n.InTime e) (hs : n.step crypto u e = some n') :
    Stage crypto u n' := by
  cases e with
  | deliver role i now answer => exact h.deliver hin hs
  | confirm role now answer => exact h.confirm hin hs
  | tick role now =>
    obtain rfl := Option.some.inj hs
    have hself : Function.update n.session role ((n.session role).checkTimeout now).2 = n.session := by
      rw [checkTimeout_inTime hin, Function.update_eq_self]
    rw [hself]
    exact h

/-- Both sides that show a code show the same one. -/
theorem Stage.codes_eq (h : Stage crypto u n) {c d : SasCode} (hc : (n.session .initiator).sasCode = some c)
    (hd : (n.session .responder).sasCode = some d) : c = d := by
  cases h with
  | committed _ initiator => simp [initiator, PairingSession.sasCode] at hc
  | prompted _ _ _ initiator => simp [initiator, PairingSession.sasCode] at hc
  | revealed _ _ _ initiator => simp [initiator, PairingSession.sasCode] at hc
  | ready ready =>
    have hcode : ∀ r x, (n.session r).sasCode = some x → x = u.sasCode crypto := by
      intro r x hx
      have hl := ready.live r
      unfold PairingSession.sasCode at hx
      split at hx
      · rename_i p hp
        rw [hp] at hl
        cases hx
        exact hl
      · cases hx
    rw [hcode _ _ hc, hcode _ _ hd]

/-- Both users have confirmed, nothing is on its way and no store refused: both sides are paired. -/
theorem Stage.paired (h : Stage crypto u n) (hask : ∀ r, n.asked r = true) (hin : ∀ r, n.inbox r = [])
    (href : n.refusals = []) (r : PairingRole) : (n.session r).state = .paired := by
  cases h with
  | committed _ _ _ _ atResponder =>
    rw [hin] at atResponder
    cases atResponder
  | prompted _ _ _ _ _ atInitiator =>
    rw [hin] at atInitiator
    cases atInitiator
  | revealed _ _ _ _ _ _ atResponder =>
    rw [hin] at atResponder
    cases atResponder
  | ready ready =>
    have hhere := (ready.asked href r (hask r)).1
    have hpeer := (ready.asked href r.other (hask r.other)).2
    rw [PairingRole.other_other, hin] at hpeer
    have hpeer := hpeer.resolve_left (List.not_mem_nil)
    have hawaits := ready.awaits r
    have hstuck := ready.stuck href r
    have hlive := ready.live r
    unfold PairingSession.state
    cases hp : (n.session r).phase with
    | paired => rfl
    | prompted p =>
      rw [hp] at hhere hpeer hstuck
      have hboth : (p.localConfirmed && p.peerConfirmed) = true := Bool.and_eq_true_iff.2 ⟨hhere, hpeer⟩
      rw [Phase.stuck, hboth] at hstuck
      cases hstuck
    | awaitingRevealed c deadline peerConfirmed =>
      rw [hp, hin] at hawaits
      cases hawaits
    | _ =>
      rw [hp] at hlive
      cases hlive

/-- **Two honest sessions agree**: along every order of deliveries and confirmations in which no deadline passes, a
call fails only where a store refused the key, two codes that are shown are equal, and once both users have confirmed,
everything has arrived and no store has refused, both sides are paired. -/
theorem pairing_agreement (crypto : Crypto) (u : Setup) {events : List NetEvent} {n : Net}
    (hin : Along (Net.step crypto u) Net.InTime (.start crypto u) events)
    (hr : run (Net.step crypto u) (.start crypto u) events = some n) :
    n.errors = n.refusals.map .persistence ∧
      (∀ c d, (n.session .initiator).sasCode = some c → (n.session .responder).sasCode = some d → c = d) ∧
      ((∀ r, n.asked r = true) → (∀ r, n.inbox r = []) → n.refusals = [] → ∀ r, (n.session r).state = .paired) := by
  have h : Stage crypto u n :=
    along_inv (Stage crypto u) Net.InTime (fun _ _ _ => stage_step) events _ n stage_start hin hr
  refine ⟨?_, fun c d => h.codes_eq, fun hask hempty href => h.paired hask hempty href⟩
  cases h with
  | committed fresh => rw [fresh.errors, fresh.refusals, List.map_nil]
  | prompted _ _ fresh => rw [fresh.errors, fresh.refusals, List.map_nil]
  | revealed _ _ fresh => rw [fresh.errors, fresh.refusals, List.map_nil]
  | ready ready => exact ready.errors

/-- The transcript of the sample digests. -/
def sampleSetup : Setup where
  key
    | .initiator => sampleKey 1
    | .responder => sampleKey 2
  hello
    | .initiator => sampleKey 3
    | .responder => sampleKey 4
  nonce
    | .initiator => sampleNonce 5
    | .responder => sampleNonce 6
  timeout := none

/-- The responder's confirmation overtakes its answer to the reveal, and both outcomes come last. -/
def crossing : List NetEvent :=
  [.deliver .responder 0 0 (.ok ()), .deliver .initiator 0 1 (.ok ()), .deliver .responder 0 2 (.ok ()),
    .confirm .responder 3 (.ok ()), .deliver .initiator 1 4 (.ok ()), .deliver .initiator 0 5 (.ok ()),
    .confirm .initiator 6 (.ok ()), .tick .responder 7, .deliver .responder 1 8 (.ok ()),
    .deliver .responder 0 9 (.ok ()), .deliver .initiator 0 10 (.ok ())]

theorem pairing_agreement_crossing :
    ∃ n, run (Net.step sampleCrypto sampleSetup) (.start sampleCrypto sampleSetup) crossing = some n ∧
      n.errors = [] ∧ (n.session .initiator).state = .paired ∧ (n.session .responder).state = .paired := by
  refine ⟨_, rfl, ?_, ?_, ?_⟩
  · exact (@pairing_agreement sampleCrypto sampleSetup crossing _ (by decide) rfl).1
  · exact (@pairing_agreement sampleCrypto sampleSetup crossing _ (by decide) rfl).2.2
      (fun r => by cases r <;> rfl) (fun r => by cases r <;> rfl) rfl .initiator
  · exact (@pairing_agreement sampleCrypto sampleSetup crossing _ (by decide) rfl).2.2
      (fun r => by cases r <;> rfl) (fun r => by cases r <;> rfl) rfl .responder

end Flow
end OpenLogi
