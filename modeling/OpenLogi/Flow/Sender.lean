import OpenLogi.Flow.Handoff
/-!
# Sender — negotiating one outgoing transfer

The request, the switch writes while the accept's write window is open, and then a cancel or the wait for the result.
`writes` keeps the instant each write started at.
-/
namespace OpenLogi
namespace Flow
namespace Handoff
namespace Sender

variable {F : Type}

/-- The longest arrival window a sender honors. -/
def maxArmTimeout : Nat := 10000 * millis

/-- What a sender adds to the receiver's window before it stops waiting for the result. -/
def networkSlack : Nat := 2000 * millis

inductive HandoffCancelReason where
  | unspecified
  | switchFailed
  | superseded
  | shutdown
  deriving DecidableEq

structure HandoffCancel where
  transferId : UInt64
  reason : HandoffCancelReason
  deriving DecidableEq

/-! ## The write window -/

structure SwitchSchedule where
  writeDeadline : Nat
  giveUp : Nat
  deriving DecidableEq

/-- Writes count from the request, giving up from the accept: the peer's window opened somewhere between. -/
def SwitchSchedule.new (requestedAt acceptedAt : Nat) (accept : HandoffAccept) : SwitchSchedule :=
  let window := min (accept.armTimeoutMs.toNat * millis) maxArmTimeout
  ⟨requestedAt + window / 2, acceptedAt + window + networkSlack⟩

def SwitchSchedule.mayWrite (schedule : SwitchSchedule) (now : Nat) : Bool := now < schedule.writeDeadline

inductive SwitchOutcome where
  | notWritten
  | written
  | failed
  deriving DecidableEq

inductive AfterSwitch where
  | cancel (reason : HandoffCancelReason)
  | awaitResult
  deriving DecidableEq

def afterSwitch (outcomes : List SwitchOutcome) (stopping : Bool) : AfterSwitch :=
  if outcomes.any fun outcome => outcome ≠ .notWritten then .awaitResult
  else if stopping then .cancel .shutdown else .cancel .switchFailed

/-! ## The negotiation -/

inductive SendReport where
  | rejected (reason : HandoffRejectReason)
  | cancelled (reason : HandoffCancelReason)
  | finished (result : HandoffResult)
  | noResult
  deriving DecidableEq

/-- The peer's answer to a request; a call that fails has none. -/
inductive Answer where
  | accept (accept : HandoffAccept)
  | reject (reject : HandoffReject)
  deriving DecidableEq

def knownReason (reject : HandoffReject) : HandoffRejectReason :=
  match reject.reason with
  | .known reason => reason
  | .unknown _ => .unspecified

/-- Where a negotiation waits: for the answer, for its next device, for a write, or for the result. -/
inductive Stage where
  | requested
  | switching (schedule : SwitchSchedule) (left : List DeviceIdentity) (outcomes : List SwitchOutcome) (stopping : Bool)
  | writing (schedule : SwitchSchedule) (left : List DeviceIdentity) (outcomes : List SwitchOutcome) (stopping : Bool)
  | awaiting (giveUp : Nat)
  | ended (report : SendReport)
  deriving DecidableEq

structure Negotiation (F : Type) where
  request : HandoffRequest F
  requestedAt : Nat
  stage : Stage
  result : Option HandoffResult
  writes : List Nat
  deriving DecidableEq

namespace Negotiation

def new (request : HandoffRequest F) (now : Nat) : Negotiation F := ⟨request, now, .requested, none, []⟩

def transferId (n : Negotiation F) : UInt64 := n.request.transferId

/-- Tell the peer to disarm. -/
def cancel (n : Negotiation F) (reason : HandoffCancelReason) : Negotiation F × List HandoffCancel :=
  ({ n with stage := .ended (.cancelled reason) }, [⟨n.transferId, reason⟩])

/-- The call returned. -/
def answered (n : Negotiation F) (answer : Except Unit Answer) (now : Nat) :
    Option (Negotiation F × List HandoffCancel) :=
  match n.stage with
  | .requested =>
    match answer with
    | .ok (.accept accept) =>
      if accept.transferId = n.transferId then
        if accept.armTimeoutMs = 0 then
          -- a replay: the peer finished this transfer already and sent the result again
          some ({ n with stage := .awaiting (now + networkSlack) }, [])
        else
          some ({ n with stage := .switching (.new n.requestedAt now accept) n.request.devices [] false }, [])
      else some (n.cancel .switchFailed)
    | .ok (.reject reject) => some ({ n with stage := .ended (.rejected (knownReason reject)) }, [])
    -- the peer may have armed; no write started
    | .error () => some (n.cancel .switchFailed)
  | _ => none

/-- The next device: its write starts, or it is left where it is.  After the last, the transfer is settled. -/
def proceed (n : Negotiation F) (stop allowsIo : Bool) (now : Nat) : Option (Negotiation F × List HandoffCancel) :=
  match n.stage with
  | .switching schedule (_ :: left) outcomes stopping =>
    let stopping := stopping || stop
    if stopping || !allowsIo || !schedule.mayWrite now then
      some ({ n with stage := .switching schedule left (outcomes ++ [.notWritten]) stopping }, [])
    else some ({ n with stage := .writing schedule left outcomes stopping, writes := n.writes ++ [now] }, [])
  | .switching schedule [] outcomes stopping =>
    match afterSwitch outcomes stopping with
    | .cancel reason => some (n.cancel reason)
    | .awaitResult =>
      if stopping then some ({ n with stage := .ended .noResult }, [])
      else some ({ n with stage := .awaiting schedule.giveUp }, [])
  | _ => none

/-- The write ended: it completed, or it failed or timed out. -/
def wrote (n : Negotiation F) (completed : Bool) : Option (Negotiation F × List HandoffCancel) :=
  match n.stage with
  | .writing schedule left outcomes stopping =>
    some ({ n with
      stage := .switching schedule left (outcomes ++ [if completed then .written else .failed]) stopping }, [])
  | _ => none

/-- The wait for the result looks at what there is. -/
def awaitResult (n : Negotiation F) (stop : Bool) (now : Nat) : Option (Negotiation F × List HandoffCancel) :=
  match n.stage with
  | .awaiting giveUp =>
    if stop then some ({ n with stage := .ended .noResult }, [])
    else
      match n.result with
      | some result => some ({ n with stage := .ended (.finished result) }, [])
      | none => if giveUp ≤ now then some ({ n with stage := .ended .noResult }, []) else none
  | _ => none

/-- The actor hands over the peer's result, once. -/
def notified (n : Negotiation F) (result : HandoffResult) : Option (Negotiation F × List HandoffCancel) :=
  match n.result with
  | none => some ({ n with result := some result }, [])
  | some _ => none

end Negotiation

/-! ## What each step does -/

theorem afterSwitch_cancel {outcomes : List SwitchOutcome} {stopping : Bool} {reason : HandoffCancelReason}
    (h : afterSwitch outcomes stopping = .cancel reason) : ∀ outcome ∈ outcomes, outcome = .notWritten := by
  unfold afterSwitch at h
  split at h
  · cases h
  · rename_i hnone
    simpa using hnone

/-- **Writes may start for at most half of the window the receiver announced**, counted from the request. -/
theorem writeDeadline_le {requestedAt acceptedAt : Nat} {accept : HandoffAccept} {window : Nat}
    (h : accept.armTimeoutMs.toNat * millis ≤ window) :
    (SwitchSchedule.new requestedAt acceptedAt accept).writeDeadline ≤ requestedAt + window / 2 := by
  have hmin : min (accept.armTimeoutMs.toNat * millis) maxArmTimeout / 2 ≤ window / 2 :=
    Nat.div_le_div_right (by omega)
  simp only [SwitchSchedule.new]
  omega

end Sender
end Handoff
end Flow
end OpenLogi
