import OpenLogi.Flow.Sas
/-!
# Pairing — the ceremony of one connection

`PairingSession` and its calls.  Each call returns what the source returns and the session after it; the key store is
a state the call may write to.  Instants are nanoseconds.
-/
namespace OpenLogi
namespace Flow

/-! ## Messages -/

/-- A field of an open enum: a known value, or another number. -/
inductive EnumValue (α : Type) where
  | known (value : α)
  | unknown (value : Int)
  deriving DecidableEq

inductive PairResult where
  | unspecified
  | paired
  | pendingLocal
  | rejected
  | timeout
  deriving DecidableEq

def PairResult.toI32 : PairResult → Int
  | .unspecified => 0
  | .paired => 1
  | .pendingLocal => 2
  | .rejected => 3
  | .timeout => 4

inductive PairAbortReason where
  | unspecified
  | userCancelled
  | codeMismatch
  | timeout
  deriving DecidableEq

def PairAbortReason.toI32 : PairAbortReason → Int
  | .unspecified => 0
  | .userCancelled => 1
  | .codeMismatch => 2
  | .timeout => 3

structure PairStart where
  nonceCommitment : List UInt8
  deriving DecidableEq

structure PairPrompted where
  timeoutMs : UInt32
  nonce : List UInt8
  deriving DecidableEq

structure PairReveal where
  nonce : List UInt8
  deriving DecidableEq

structure PairRevealed where
  deriving DecidableEq

structure PairOutcome where
  result : EnumValue PairResult
  deriving DecidableEq

structure PairAbort where
  reason : EnumValue PairAbortReason
  deriving DecidableEq

def pairOutcome (result : PairResult) : PairOutcome := ⟨.known result⟩

/-! ## The session -/

/-- A pairing abort reason after validation. -/
inductive PairingAbortReason where
  | userCancelled
  | codeMismatch
  | timeout
  deriving DecidableEq

def PairingAbortReason.toProto : PairingAbortReason → PairAbortReason
  | .userCancelled => .userCancelled
  | .codeMismatch => .codeMismatch
  | .timeout => .timeout

inductive PairingRole where
  | initiator
  | responder
  deriving DecidableEq

/-- Externally observable pairing state. -/
inductive PairingState where
  | idle
  | awaitingPrompt
  | awaitingReveal (timeoutMs : UInt32)
  | awaitingRevealed (timeoutMs : UInt32)
  | prompted (timeoutMs : UInt32) (localConfirmed peerConfirmed : Bool)
  | paired
  | rejected
  | timedOut
  | aborted (reason : PairingAbortReason)
  deriving DecidableEq

structure PersistPeerKeyError where
  detail : String
  deriving DecidableEq

inductive PairingError where
  | invalidTransition (state : PairingState)
  | invalidEnum (value : Int)
  | invalidField (field : String) (source : FixedBytesError)
  | commitmentMismatch
  | persistence (error : PersistPeerKeyError)
  deriving DecidableEq

/-- How a key store answers `persist_peer_key`. -/
abbrev PeerKeyStore (S : Type) := PublicKey → S → Except PersistPeerKeyError Unit × S

def millis : Nat := 1000000

def defaultPairingTimeout : Nat := 120000 * millis

structure Deadline where
  timeoutMs : UInt32
  at_ : Nat
  deriving DecidableEq

def Deadline.new (now timeout : Nat) : Deadline :=
  let timeoutMs := UInt32.ofNat (min (timeout / millis) 0xFFFFFFFF)
  ⟨timeoutMs, now + timeoutMs.toNat * millis⟩

def Deadline.expired (deadline : Deadline) (now : Nat) : Bool := decide (deadline.at_ ≤ now)

structure Prompted where
  code : SasCode
  deadline : Deadline
  localConfirmed : Bool
  peerConfirmed : Bool
  deriving DecidableEq

def Prompted.new (code : SasCode) (deadline : Deadline) : Prompted := ⟨code, deadline, false, false⟩

inductive ConfirmationSide where
  | here
  | peer
  deriving DecidableEq

/-- The confirmations once `side` has confirmed. -/
def Prompted.mark (prompted : Prompted) : ConfirmationSide → Prompted
  | .here => { prompted with localConfirmed := true }
  | .peer => { prompted with peerConfirmed := true }

inductive Phase where
  | idle
  | awaitingPrompt (nonce : PairingNonce)
  | awaitingReveal (commitment : NonceCommitment) (nonce : PairingNonce) (deadline : Deadline)
  | awaitingRevealed (code : SasCode) (deadline : Deadline) (peerConfirmed : Bool)
  | prompted (prompted : Prompted)
  | paired
  | rejected
  | timedOut
  | aborted (reason : PairingAbortReason)
  deriving DecidableEq

structure PairingSession where
  localKey : PublicKey
  peerKey : PublicKey
  localHello : HelloDigest
  peerHello : HelloDigest
  role : Option PairingRole
  phase : Phase
  deriving DecidableEq

namespace PairingSession

def new (localKey peerKey : PublicKey) (localHello peerHello : HelloDigest) : PairingSession :=
  ⟨localKey, peerKey, localHello, peerHello, none, .idle⟩

def state (s : PairingSession) : PairingState :=
  match s.phase with
  | .idle => .idle
  | .awaitingPrompt _ => .awaitingPrompt
  | .awaitingReveal _ _ deadline => .awaitingReveal deadline.timeoutMs
  | .awaitingRevealed _ deadline _ => .awaitingRevealed deadline.timeoutMs
  | .prompted p => .prompted p.deadline.timeoutMs p.localConfirmed p.peerConfirmed
  | .paired => .paired
  | .rejected => .rejected
  | .timedOut => .timedOut
  | .aborted reason => .aborted reason

/-- The code to show, only while confirmations are pending. -/
def sasCode (s : PairingSession) : Option SasCode :=
  match s.phase with
  | .prompted p => some p.code
  | _ => none

def localParty (s : PairingSession) (nonce : PairingNonce) : PairingParty := ⟨s.localKey, s.localHello, nonce⟩

def peerParty (s : PairingSession) (nonce : PairingNonce) : PairingParty := ⟨s.peerKey, s.peerHello, nonce⟩

/-- The session in a terminal phase. -/
def terminal (s : PairingSession) (phase : Phase) : PairingSession := { s with phase }

def invalidTransition (s : PairingSession) : PairingError := .invalidTransition s.state

def ensureIdle (s : PairingSession) : Except PairingError Unit :=
  match s.phase with
  | .idle => .ok ()
  | _ => .error s.invalidTransition

def ensurePrompted (s : PairingSession) : Except PairingError Unit :=
  match s.phase with
  | .prompted _ => .ok ()
  | _ => .error s.invalidTransition

def ensureActive (s : PairingSession) : Except PairingError Unit :=
  match s.phase with
  | .awaitingPrompt _ | .awaitingReveal _ _ _ | .awaitingRevealed _ _ _ | .prompted _ => .ok ()
  | _ => .error s.invalidTransition

section
variable (crypto : Crypto)

/-- Begins an initiating-side ceremony. -/
def start (s : PairingSession) (nonce : PairingNonce) : Except PairingError PairStart × PairingSession :=
  match s.ensureIdle with
  | .error e => (.error e, s)
  | .ok () =>
    let commitment := commit crypto s.localKey s.peerKey nonce
    (.ok ⟨commitment.val⟩, { s with role := some .initiator, phase := .awaitingPrompt nonce })

/-- Handles `PairStart` and answers with this side's nonce and deadline. -/
def receiveStart (s : PairingSession) (start : PairStart) (nonce : PairingNonce) (now : Nat) (timeout : Option Nat) :
    Except PairingError PairPrompted × PairingSession :=
  match s.ensureIdle with
  | .error e => (.error e, s)
  | .ok () =>
    match fixed 32 start.nonceCommitment with
    | .error source => (.error (.invalidField "nonce_commitment" source), s)
    | .ok commitment =>
      let deadline := Deadline.new now (timeout.getD defaultPairingTimeout)
      (.ok ⟨deadline.timeoutMs, nonce.val⟩,
        { s with role := some .responder, phase := .awaitingReveal commitment nonce deadline })

/-- Handles `PairPrompted` on the initiator and creates its `PairReveal`. -/
def receivePrompted (s : PairingSession) (prompted : PairPrompted) (now : Nat) :
    Except PairingError PairReveal × PairingSession :=
  match s.phase with
  | .awaitingPrompt nonce =>
    match fixed 16 prompted.nonce with
    | .error source => (.error (.invalidField "nonce" source), s)
    | .ok peerNonce =>
      let timeout := if prompted.timeoutMs = 0 then defaultPairingTimeout else prompted.timeoutMs.toNat * millis
      let code := deriveSas crypto (s.localParty nonce) (s.peerParty peerNonce)
      (.ok ⟨nonce.val⟩, { s with phase := .awaitingRevealed code (.new now timeout) false })
  | _ => (.error s.invalidTransition, s)

/-- Handles `PairReveal` on the responder and verifies the commitment. -/
def receiveReveal (s : PairingSession) (reveal : PairReveal) (now : Nat) :
    Except PairingError PairRevealed × PairingSession :=
  match s.phase with
  | .awaitingReveal commitment nonce deadline =>
    if deadline.expired now then
      let s := s.terminal .timedOut
      (.error s.invalidTransition, s)
    else
      match fixed 16 reveal.nonce with
      | .error source => (.error (.invalidField "nonce" source), s)
      | .ok peerNonce =>
        if !opensTo crypto commitment s.peerKey s.localKey peerNonce then
          (.error .commitmentMismatch, s.terminal (.aborted .codeMismatch))
        else
          let code := deriveSas crypto (s.peerParty peerNonce) (s.localParty nonce)
          (.ok ⟨⟩, { s with phase := .prompted (.new code deadline) })
  | _ => (.error s.invalidTransition, s)

end

/-- Handles `PairRevealed` on the initiator; the code may now be shown. -/
def receiveRevealed (s : PairingSession) (now : Nat) : Except PairingError Unit × PairingSession :=
  match s.phase with
  | .awaitingRevealed code deadline peerConfirmed =>
    if deadline.expired now then
      let s := s.terminal .timedOut
      (.error s.invalidTransition, s)
    else (.ok (), { s with phase := .prompted { Prompted.new code deadline with peerConfirmed } })
  | _ => (.error s.invalidTransition, s)

/-- The end of `confirm`: one more side of a code that is shown has confirmed. -/
def confirmPrompted {S : Type} (s : PairingSession) (side : ConfirmationSide) (now : Nat)
    (persistPeerKey : PeerKeyStore S) (store : S) : Except PairingError PairResult × PairingSession × S :=
  match s.phase with
  | .prompted prompted =>
    if prompted.deadline.expired now then (.ok .timeout, s.terminal .timedOut, store)
    else
      let prompted := prompted.mark side
      let s := { s with phase := .prompted prompted }
      if prompted.localConfirmed && prompted.peerConfirmed then
        match persistPeerKey s.peerKey store with
        | (.error e, store) => (.error (.persistence e), s, store)
        | (.ok (), store) => (.ok .paired, s.terminal .paired, store)
      else (.ok .pendingLocal, s, store)
  | _ => (.error s.invalidTransition, s, store)

def confirm {S : Type} (s : PairingSession) (side : ConfirmationSide) (now : Nat) (persistPeerKey : PeerKeyStore S)
    (store : S) : Except PairingError PairResult × PairingSession × S :=
  match s.phase, side with
  | .paired, _ => (.ok .paired, s, store)
  | .rejected, .peer => (.ok .rejected, s, store)
  | .timedOut, .peer => (.ok .timeout, s, store)
  | .awaitingRevealed code deadline _, .peer =>
    if deadline.expired now then (.ok .timeout, s.terminal .timedOut, store)
    else (.ok .pendingLocal, { s with phase := .awaitingRevealed code deadline true }, store)
  | _, _ => s.confirmPrompted side now persistPeerKey store

/-- Records that this side sent `PairConfirm`. -/
def confirmLocal {S : Type} (s : PairingSession) (now : Nat) (persistPeerKey : PeerKeyStore S) (store : S) :
    Except PairingError PairResult × PairingSession × S :=
  s.confirm .here now persistPeerKey store

/-- Handles a peer `PairConfirm` and returns its outcome. -/
def receiveConfirm {S : Type} (s : PairingSession) (now : Nat) (persistPeerKey : PeerKeyStore S) (store : S) :
    Except PairingError PairOutcome × PairingSession × S :=
  let (result, s, store) := s.confirm .peer now persistPeerKey store
  (result.map pairOutcome, s, store)

/-- Applies a peer-provided `PairOutcome`. -/
def receiveOutcome (s : PairingSession) (outcome : PairOutcome) : Except PairingError Unit × PairingSession :=
  match outcome.result with
  | .known .paired =>
    match s.phase with
    | .paired => (.ok (), s)
    | .prompted prompted => if prompted.localConfirmed then (.ok (), s) else (.error s.invalidTransition, s)
    | _ => (.error s.invalidTransition, s)
  | .known .pendingLocal => if s.phase = .paired then (.ok (), s) else (s.ensurePrompted, s)
  | .known .rejected =>
    match s.ensurePrompted with
    | .error e => (.error e, s)
    | .ok () => (.ok (), s.terminal .rejected)
  | .known .timeout =>
    match s.ensurePrompted with
    | .error e => (.error e, s)
    | .ok () => (.ok (), s.terminal .timedOut)
  | .known .unspecified => (.error (.invalidEnum PairResult.unspecified.toI32), s)
  | .unknown value => (.error (.invalidEnum value), s)

/-- Rejects the local prompt. -/
def reject (s : PairingSession) : Except PairingError PairOutcome × PairingSession :=
  match s.ensureActive with
  | .error e => (.error e, s)
  | .ok () => (.ok (pairOutcome .rejected), s.terminal .rejected)

/-- Aborts the current ceremony. -/
def abort (s : PairingSession) (reason : PairingAbortReason) : Except PairingError PairAbort × PairingSession :=
  match s.ensureActive with
  | .error e => (.error e, s)
  | .ok () => (.ok ⟨.known reason.toProto⟩, s.terminal (.aborted reason))

/-- Handles a peer `PairAbort`. -/
def receiveAbort (s : PairingSession) (abort : PairAbort) : Except PairingError Unit × PairingSession :=
  match s.ensureActive with
  | .error e => (.error e, s)
  | .ok () =>
    match abort.reason with
    | .known .userCancelled => (.ok (), s.terminal (.aborted .userCancelled))
    | .known .codeMismatch => (.ok (), s.terminal (.aborted .codeMismatch))
    | .known .timeout => (.ok (), s.terminal (.aborted .timeout))
    | .known .unspecified => (.error (.invalidEnum PairAbortReason.unspecified.toI32), s)
    | .unknown value => (.error (.invalidEnum value), s)

/-- The deadline that runs. -/
def deadline (s : PairingSession) : Option Deadline :=
  match s.phase with
  | .awaitingReveal _ _ deadline | .awaitingRevealed _ deadline _ => some deadline
  | .prompted prompted => some prompted.deadline
  | _ => none

/-- Transitions an expired session to its timeout. -/
def checkTimeout (s : PairingSession) (now : Nat) : Option PairOutcome × PairingSession :=
  match s.deadline with
  | none => (none, s)
  | some deadline =>
    if deadline.expired now then (some (pairOutcome .timeout), s.terminal .timedOut) else (none, s)

end PairingSession
end Flow
end OpenLogi
