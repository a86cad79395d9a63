import OpenLogi.HostSwitch.Manager
/-!
# Slot — one hardware slot of a capture manager

A slot runs one capture session, or it recovers: the firmware is owed a restore, a restart is paced, or both.  A session
that drains stays the slot's until its own completion.  `CaptureSession` and `CaptureSlot` as `capture_session.rs` has
them; an epoch is counted, not wrapped.
-/
namespace OpenLogi
namespace Capture

/-- A capture epoch, and the configuration entry its actions are from. -/
structure HidppSessionId where
  deviceKey : String
  epoch : Nat
  deriving DecidableEq

def HidppSessionId.sameEpoch (a b : HidppSessionId) : Bool := a.epoch = b.epoch

inductive ReconcileAction where
  | none
  | dispatchChanged
  | retiring
  deriving DecidableEq

inductive CompletionAction where
  | ignore
  | remove (unexpected : Bool)
  deriving DecidableEq

inductive SessionPhase where
  | active
  | draining
  deriving DecidableEq

variable {T D R S : Type}

structure CaptureSession (T D : Type) where
  id : HidppSessionId
  target : T
  dispatch : D
  phase : SessionPhase
  deriving DecidableEq

namespace CaptureSession

def isActive (session : CaptureSession T D) : Bool := session.phase = .active

def owns (session : CaptureSession T D) (event : HidppSessionId) : Bool := session.id.sameEpoch event

def rekey (session : CaptureSession T D) (deviceKey : String) : CaptureSession T D :=
  { session with id := { session.id with deviceKey := deviceKey } }

def completion (session : CaptureSession T D) (done : HidppSessionId) : CompletionAction :=
  if session.owns done then .remove session.isActive else .ignore

/-- What a session does about the wanted plan, the command it is stopped with, and the session after. -/
def reconcileWith [DecidableEq T] [DecidableEq D] (session : CaptureSession T D) (wanted : Option (T × D))
    (stopForChange : T → Option T → S) : ReconcileAction × Option S × CaptureSession T D :=
  if !session.isActive then (.none, none, session)
  else
    match wanted with
    | some (target, dispatch) =>
      if session.target = target then
        if session.dispatch = dispatch then (.none, none, session)
        else (.dispatchChanged, none, { session with dispatch := dispatch })
      else (.retiring, some (stopForChange session.target (some target)), { session with phase := .draining })
    | none => (.retiring, some (stopForChange session.target none), { session with phase := .draining })

end CaptureSession

/-- A restore the firmware is owed, and when it may be tried next. -/
structure PendingRestore (R : Type) where
  token : R
  retryAt : Nat
  deriving DecidableEq

structure CaptureRecovery (R : Type) where
  pendingRestore : Option (PendingRestore R)
  restartAt : Option Nat
  deriving DecidableEq

namespace CaptureRecovery

def isEmpty (recovery : CaptureRecovery R) : Bool := recovery.pendingRestore.isNone && recovery.restartAt.isNone

def blocksRestart (recovery : CaptureRecovery R) (now : Nat) : Bool :=
  recovery.pendingRestore.isSome || recovery.restartAt.any fun deadline => now < deadline

/-- The restore may be tried. -/
def isDue (recovery : CaptureRecovery R) (now : Nat) : Bool :=
  recovery.pendingRestore.any fun pending => pending.retryAt ≤ now

end CaptureRecovery

/-- How a session's task ended. -/
inductive TaskEnd (R : Type) where
  | returned (pendingRestore : Option R)
  | panicked
  deriving DecidableEq

/-- A panic counts as an end with nothing to restore, so that the slot recovers; what the task held is lost with it. -/
def settleCaptureTask : TaskEnd R → Option R
  | .returned pendingRestore => pendingRestore
  | .panicked => none

inductive CaptureSlot (T D R : Type) where
  | running (session : CaptureSession T D)
  | recovering (recovery : CaptureRecovery R)
  deriving DecidableEq

/-- The slot of a recovery, which goes once nothing is left of it. -/
def CaptureRecovery.keep (recovery : CaptureRecovery R) : Option (CaptureSlot T D R) :=
  if recovery.isEmpty then none else some (.recovering recovery)

namespace CaptureSlot

/-- Settle a completion: the session's id, whether it ended without being asked to, and the slot after.  A completion of
another epoch is refused. -/
def complete (slot : CaptureSlot T D R) (done : HidppSessionId) (pendingRestore : Option (PendingRestore R))
    (restartAfterUnexpected : Option Nat) : Option (HidppSessionId × Bool × CaptureSlot T D R) :=
  match slot with
  | .recovering _ => none
  | .running session =>
    match session.completion done with
    | .ignore => none
    | .remove unexpected =>
      some (session.id, unexpected,
        .recovering ⟨pendingRestore, if unexpected then restartAfterUnexpected else none⟩)

/-- The epoch of the session that the slot runs. -/
def epoch : CaptureSlot T D R → Option Nat
  | .running session => some session.id.epoch
  | .recovering _ => none

/-- The restore that the slot owes the firmware. -/
def owed : CaptureSlot T D R → Option R
  | .running _ => none
  | .recovering recovery => recovery.pendingRestore.map PendingRestore.token

end CaptureSlot

@[simp] theorem CaptureRecovery.keep_epoch (recovery : CaptureRecovery R) :
    (recovery.keep (T := T) (D := D)).bind CaptureSlot.epoch = none := by
  unfold keep
  split <;> rfl

@[simp] theorem CaptureRecovery.keep_owed (recovery : CaptureRecovery R) :
    (recovery.keep (T := T) (D := D)).bind CaptureSlot.owed = recovery.pendingRestore.map PendingRestore.token := by
  unfold keep
  split
  · next hempty =>
    simp only [isEmpty, Bool.and_eq_true, Option.isNone_iff_eq_none] at hempty
    rw [hempty.1]
    rfl
  · rfl

end Capture
end OpenLogi
