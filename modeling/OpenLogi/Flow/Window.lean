import OpenLogi.Flow.Sender
import OpenLogi.Flow.Incoming
import OpenLogi.Lib.Run
/-!
# Window — a sender and a receiver over a channel that loses, delays and duplicates

What is sent stays on the channel, and any of it may be delivered at any later instant, any number of times or never.
The clocks run at one rate, so one `now` serves both.  Other peers ask and cancel as they like.  `log` keeps what the
receiver's ledger was asked and answered.
-/
namespace OpenLogi
namespace Flow
namespace Handoff

open OpenLogi.Scroll (F64)
open Sender (Negotiation HandoffCancel)

variable {F : Type}

/-- What the sender sends. -/
inductive ToReceiver (F : Type) where
  | request (request : HandoffRequest F)
  | cancel (cancel : HandoffCancel)
  deriving DecidableEq

/-- What the receiver sends. -/
inductive ToSender where
  | accept (accept : HandoffAccept)
  | reject (reject : HandoffReject)
  | result (result : HandoffResult)
  deriving DecidableEq

structure System (F : Type) where
  now : Nat
  transfers : UInt64 → Option (Negotiation F)
  ledger : IncomingLedger F
  toReceiver : List (ToReceiver F)
  toSender : List ToSender
  log : List (Record F)

def System.start : System F := ⟨0, fun _ => none, .empty, [], [], []⟩

inductive Event (F : Type) where
  /-- Time passes. -/
  | wait (now : Nat)
  /-- The sender starts a transfer under a new id, which `new_transfer_id` draws. -/
  | begin (request : HandoffRequest F)
  /-- The call of a request returns, with an answer of the peer or with none. -/
  | answer (transferId : UInt64) (answer : Except Unit Sender.Answer)
  | proceed (transferId : UInt64) (stop allowsIo : Bool)
  | wrote (transferId : UInt64) (completed : Bool)
  | awaitResult (transferId : UInt64) (stop : Bool)
  /-- A result of the peer reaches the sender. -/
  | notified (result : HandoffResult)
  /-- The receiver's ledger is called, for this peer, for another one, or by the receiver itself. -/
  | receive (call : Call F)

/-- How the receiver answers a request. -/
def ArmDecision.replies : ArmDecision → List ToSender
  | .armed accept | .duplicate accept => [.accept accept]
  | .replay accept result => [.result result, .accept accept]
  | .rejected reject => [.reject reject]

/-- What the receiver sends `peer` after a call. -/
def replies (peer : PublicKey) (r : Record F) : List ToSender :=
  match r.call, r.answer with
  | .arm sender _ _ _, .arm decision => if sender = peer then decision.replies else []
  | _, answer => (answer.completed.filter fun done => done.peer = peer).toList.map fun done => .result done.result

def ToReceiver.cancels (transferId : UInt64) : ToReceiver F → Bool
  | .cancel c => c.transferId = transferId
  | .request _ => false

namespace System

/-- One negotiation takes a step. -/
def advance (s : System F) (transferId : UInt64)
    (f : Negotiation F → Option (Negotiation F × List HandoffCancel)) : Option (System F) :=
  (s.transfers transferId).bind fun n => (f n).map fun (n, cancels) =>
    { s with
      transfers := Function.update s.transfers transferId (some n)
      toReceiver := s.toReceiver ++ cancels.map .cancel }

variable [DecidableEq F] (peer : PublicKey)

/-- Whether a call can be made now: what it takes from the sender has been sent. -/
def allows (s : System F) : Call F → Bool
  | .arm sender request _ now => now = s.now && (sender ≠ peer || s.toReceiver.contains (.request request))
  | .observe _ now | .expire now => now = s.now
  | .cancel sender transferId => sender ≠ peer || s.toReceiver.any (ToReceiver.cancels transferId)

/-- Whether an answer can come back now. -/
def canAnswer (s : System F) : Except Unit Sender.Answer → Bool
  | .ok (.accept accept) => s.toSender.contains (.accept accept)
  | .ok (.reject reject) => s.toSender.contains (.reject reject)
  | .error () => true

def step [F64 F] (enabled : Bool) (s : System F) : Event F → Option (System F)
  | .wait now => if s.now ≤ now then some { s with now } else none
  | .begin request =>
    match s.transfers request.transferId with
    | some _ => none
    | none =>
      some { s with
        transfers := Function.update s.transfers request.transferId (some (.new request s.now))
        toReceiver := s.toReceiver ++ [.request request] }
  | .answer transferId answer =>
    if s.canAnswer answer then s.advance transferId fun n => n.answered answer s.now else none
  | .proceed transferId stop allowsIo => s.advance transferId fun n => n.proceed stop allowsIo s.now
  | .wrote transferId completed => s.advance transferId fun n => n.wrote completed
  | .awaitResult transferId stop => s.advance transferId fun n => n.awaitResult stop s.now
  | .notified result =>
    if s.toSender.contains (.result result) then s.advance result.transferId fun n => n.notified result else none
  | .receive call =>
    if s.allows peer call then
      let r := turn enabled s.ledger call
      some { s with ledger := r.after, toSender := s.toSender ++ replies peer r, log := s.log ++ [r] }
    else none

end System

end Handoff
end Flow
end OpenLogi
