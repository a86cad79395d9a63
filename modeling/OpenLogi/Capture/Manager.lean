import OpenLogi.Capture.Slot
import OpenLogi.Flow.Devices
/-!
# Manager — the gesture and the keyboard capture manager

Two managers drive the same slots by different rules (`Rules`): what keys a slot, when the inputs of a session are
cancelled, and what an exclusive receiver request holds up.  The loop that drives a manager, its environment, and the
sessions whose completion it has not processed are the state of a system; a session's input and its completion carry the
session's id, whatever the slot runs by then.  A keyboard's key publication and its G-key profile are left out: no slot
depends on them.
-/
namespace OpenLogi
namespace Capture

open HostSwitch (ReceiverRequestState retryDelay)
open OpenLogi.Core (PhysicalDeviceKey)
open Hid (DeviceRoute)

variable {K T D R S I : Type}

/-- What the two managers do differently. -/
structure Rules (K T D S : Type) where
  key : T → K
  configKey : D → String
  stopForChange : T → Option T → S
  /-- Whether the inputs admitted so far are cancelled, from the old plan and the wanted one. -/
  cancels : ReconcileAction → D → Option D → Bool
  /-- Whether owed restores are retried while an exclusive request holds the receiver. -/
  retriesDuringRequests : Bool
  /-- Whether a shutdown settles the restores by reconciling, not by retrying alone. -/
  drainsByReconcile : Bool

/-! ## The gesture manager -/

inductive CaptureSessionStop where
  | shutdown
  | handoff (route : DeviceRoute)
  deriving DecidableEq

/-- `Spec` is what a session owns in the firmware. -/
structure CaptureTarget (Spec : Type) where
  physicalKey : PhysicalDeviceKey
  route : DeviceRoute
  spec : Spec
  rearmGeneration : Nat
  deriving DecidableEq

/-- `B` is what resolves an input, `P` the context of the pointer that it was selected for. -/
structure DispatchPlan (B P : Type) where
  configKey : String
  bindings : B
  pointer : P
  deriving DecidableEq

def sameBindings {B P : Type} [DecidableEq B] (a b : DispatchPlan B P) : Bool :=
  a.configKey = b.configKey && a.bindings = b.bindings

def stopForTargetChange {Spec : Type} (current : CaptureTarget Spec) (wanted : Option (CaptureTarget Spec)) :
    CaptureSessionStop :=
  match wanted with
  | some next => if next.route ≠ current.route then .handoff next.route else .shutdown
  | none => .shutdown

/-- A plan that differs in the pointer alone keeps what is held. -/
def gesture (Spec B P : Type) [DecidableEq B] :
    Rules PhysicalDeviceKey (CaptureTarget Spec) (DispatchPlan B P) CaptureSessionStop where
  key := CaptureTarget.physicalKey
  configKey := DispatchPlan.configKey
  stopForChange := stopForTargetChange
  cancels action dispatch wanted := action = .dispatchChanged && !wanted.any (sameBindings dispatch)
  retriesDuringRequests := true
  drainsByReconcile := false

/-! ## The keyboard manager -/

structure KeyboardTarget where
  route : DeviceRoute
  deriving DecidableEq

/-- `B` is the bindings, the gaming mode and the captured keys. -/
structure KeyboardDispatchPlan (B : Type) where
  configKey : String
  bindings : B
  deriving DecidableEq

def keyboard (B : Type) : Rules DeviceRoute KeyboardTarget (KeyboardDispatchPlan B) CaptureSessionStop where
  key := KeyboardTarget.route
  configKey := KeyboardDispatchPlan.configKey
  stopForChange _ _ := .shutdown
  cancels action _ _ := action ≠ .none
  retriesDuringRequests := false
  drainsByReconcile := true

/-! ## The state -/

inductive Output (D S I : Type) where
  | cancel (id : HidppSessionId)
  | dispatch (id : HidppSessionId) (plan : D) (input : I)
  | stop (id : HidppSessionId) (command : S)
  deriving DecidableEq

/-- Where the manager's loop is: it drains its sessions, then settles what the firmware is owed. -/
inductive Stage where
  | managing
  | draining
  | settling
  deriving DecidableEq

structure Sys (K T D R S I : Type) where
  slots : K → Option (CaptureSlot T D R) := fun _ => none
  /-- The published plans. -/
  published : List (T × D) := []
  requests : ReceiverRequestState := ⟨0, 0⟩
  deviceIo : Bool := true
  nextEpoch : Nat := 1
  stage : Stage := .managing
  /-- What was done to the sessions of a key, newest first. -/
  outputs : K → List (Output D S I) := fun _ => []
  /-- The sessions spawned whose completion was not processed. -/
  unprocessed : List (K × Nat) := []

/-- What a reconcile meets: the time, the leases it is granted, and how each retry ends, with a token still owed or with
the firmware restored. -/
structure Turn (K R : Type) where
  now : Nat
  restoreLease : Bool
  sessionLease : K → Bool
  retry : K → R → Option R
  /-- When a retry ended. -/
  retriedAt : K → Nat

inductive Event (K T D R I : Type) where
  | publish (plans : List (T × D))
  | request (requests : ReceiverRequestState)
  | suspend (deviceIo : Bool)
  /-- A session of another manager takes an epoch. -/
  | mint
  | reconcile (turn : Turn K R)
  | input (key : K) (session : HidppSessionId) (input : I)
  /-- A session's task has ended, and every input that it accepted was forwarded. -/
  | done (key : K) (session : HidppSessionId) (task : TaskEnd R) (now : Nat)
  /-- The registry changed. -/
  | expedite (now : Nat)
  | shutdown
  /-- No session is left, or their reports have ended. -/
  | drained (now : Nat)
  /-- One attempt to settle what is owed. -/
  | settle (turn : Turn K R)

/-! ## One manager -/

section
variable [DecidableEq K] [DecidableEq T] [DecidableEq D]

def Rules.reconcileSession (rules : Rules K T D S) (session : CaptureSession T D) (wanted : Option (T × D)) :
    List (Output D S I) × CaptureSession T D :=
  let (action, command, after) := session.reconcileWith wanted rules.stopForChange
  let cancelled :=
    if rules.cancels action session.dispatch (wanted.map Prod.snd) then [Output.cancel session.id] else []
  let stopped := command.toList.map (Output.stop session.id)
  (cancelled ++ stopped, if action = .dispatchChanged then after.rekey (rules.configKey after.dispatch) else after)

/-- The published plan of a key. -/
def Rules.wantedFor (rules : Rules K T D S) (wanted : List (T × D)) (key : K) : Option (T × D) :=
  wanted.find? fun (target, _) => rules.key target = key

namespace Sys

/-- Nothing is wanted while an exclusive request holds the receiver. -/
def wantedSessions (s : Sys K T D R S I) (published : List (T × D)) : List (T × D) :=
  if s.requests.any then [] else published

/-- Reconcile the session of one slot. -/
def reconcileSlot (rules : Rules K T D S) (wanted : List (T × D)) (key : K) (s : Sys K T D R S I) : Sys K T D R S I :=
  match s.slots key with
  | some (.running session) =>
    let (outputs, after) := rules.reconcileSession session (rules.wantedFor wanted key)
    { s with slots := Function.update s.slots key (some (.running after))
             outputs := Function.update s.outputs key (outputs ++ s.outputs key) }
  | _ => s

/-- Reconcile the session of every slot. -/
def reconcileSessions (rules : Rules K T D S) (wanted : List (T × D)) (s : Sys K T D R S I) : Sys K T D R S I :=
  { s with slots := fun key => (s.reconcileSlot rules wanted key).slots key
           outputs := fun key => (s.reconcileSlot rules wanted key).outputs key }

/-- A device no longer published needs no restart; a slot with nothing left to recover goes. -/
def retainRecoveries (rules : Rules K T D S) (published : List (T × D)) (s : Sys K T D R S I) : Sys K T D R S I :=
  { s with slots := fun key =>
      match s.slots key with
      | some (.recovering recovery) =>
        let isPublished := published.any fun (target, _) => rules.key target = key
        (if isPublished then recovery else { recovery with restartAt := none }).keep
      | slot => slot }

/-- Retry the restores that are due. -/
def retryPendingRestores (turn : Turn K R) (s : Sys K T D R S I) : Sys K T D R S I :=
  { s with slots := fun key =>
      match s.slots key with
      | some (.recovering recovery) =>
        match recovery.pendingRestore with
        | some pending =>
          if recovery.isDue turn.now then
            let pendingRestore := (turn.retry key pending.token).map fun token =>
              PendingRestore.mk token (turn.retriedAt key + retryDelay)
            { recovery with pendingRestore := pendingRestore }.keep
          else some (.recovering recovery)
        | none => some (.recovering recovery)
      | slot => slot }

/-- Whether a slot has a session or holds one back. -/
def isTaken (s : Sys K T D R S I) (key : K) (now : Nat) : Bool :=
  match s.slots key with
  | some (.running _) => true
  | some (.recovering recovery) => recovery.blocksRestart now
  | none => false

/-- Start the session of a wanted plan. -/
def spawnWanted (rules : Rules K T D S) (turn : Turn K R) (s : Sys K T D R S I) (plan : T × D) : Sys K T D R S I :=
  let key := rules.key plan.1
  if s.isTaken key turn.now then s
  else if !turn.sessionLease key then
    { s with slots := Function.update s.slots key (some (.recovering ⟨none, some (turn.now + retryDelay)⟩)) }
  else
    let id : HidppSessionId := ⟨rules.configKey plan.2, s.nextEpoch⟩
    { s with slots := Function.update s.slots key (some (.running ⟨id, plan.1, plan.2, .active⟩))
             nextEpoch := s.nextEpoch + 1
             unprocessed := (key, s.nextEpoch) :: s.unprocessed }

def reconcile (rules : Rules K T D S) (turn : Turn K R) (deviceIo : Bool) (published : List (T × D))
    (s : Sys K T D R S I) : Sys K T D R S I :=
  if !deviceIo then s
  else
    let wanted := s.wantedSessions published
    let s := (s.reconcileSessions rules wanted).retainRecoveries rules published
    if s.requests.any && !rules.retriesDuringRequests then s
    else
      let s := if turn.restoreLease then s.retryPendingRestores turn else s
      wanted.foldl (spawnWanted rules turn) s

/-- Make every owed restore due. -/
def expeditePendingRestores (now : Nat) (s : Sys K T D R S I) : Sys K T D R S I :=
  { s with slots := fun key =>
      match s.slots key with
      | some (.recovering recovery) =>
        some (.recovering { recovery with
          pendingRestore := recovery.pendingRestore.map fun pending => { pending with retryAt := now } })
      | slot => slot }

/-- Reconcile the session of one slot directly against the latest publication. -/
def reconcilePublished (rules : Rules K T D S) (key : K) (s : Sys K T D R S I) : Sys K T D R S I :=
  if s.deviceIo then s.reconcileSlot rules (s.wantedSessions s.published) key else s

def output (s : Sys K T D R S I) (key : K) (output : Output D S I) : Sys K T D R S I :=
  { s with outputs := Function.update s.outputs key (output :: s.outputs key) }

/-- An input is dispatched under the plan of the session it is from, after the slot's session was reconciled. -/
def handleInput (rules : Rules K T D S) (key : K) (event : HidppSessionId) (input : I) (s : Sys K T D R S I) :
    Sys K T D R S I :=
  let s := s.reconcilePublished rules key
  match s.slots key with
  | some (.running session) =>
    if session.owns event then s.output key (.dispatch session.id session.dispatch input)
    else s.output key (.cancel event)
  | _ => s.output key (.cancel event)

def handleDone (key : K) (done : HidppSessionId) (pendingRestore : Option R) (now : Nat) (s : Sys K T D R S I) :
    Sys K T D R S I :=
  let pendingRestore := pendingRestore.map fun token => PendingRestore.mk token (now + retryDelay)
  let restartAt := if s.deviceIo then some (now + retryDelay) else none
  match s.slots key with
  | none => s
  | some slot =>
    match slot.complete done pendingRestore restartAt with
    | none => s
    | some (id, _, slot) =>
      let slot := match slot with
        | .recovering recovery => recovery.keep
        | .running session => some (.running session)
      { s.output key (.cancel id) with slots := Function.update s.slots key slot }

/-- One attempt of a shutdown to settle what is owed. -/
def settle (rules : Rules K T D S) (turn : Turn K R) (s : Sys K T D R S I) : Sys K T D R S I :=
  if rules.drainsByReconcile then (s.expeditePendingRestores turn.now).reconcile rules turn true []
  else if turn.restoreLease then (s.retryPendingRestores turn).expeditePendingRestores turn.now
  else s.expeditePendingRestores turn.now

def step (rules : Rules K T D S) (s : Sys K T D R S I) : Event K T D R I → Option (Sys K T D R S I)
  | .publish plans => some { s with published := plans }
  | .request requests => some { s with requests := requests }
  | .suspend deviceIo => some { s with deviceIo := deviceIo }
  | .mint => some { s with nextEpoch := s.nextEpoch + 1 }
  | .reconcile turn => if s.stage = .managing then some (s.reconcile rules turn s.deviceIo s.published) else none
  | .input key session input => if s.stage = .settling then none else some (s.handleInput rules key session input)
  | .done key session task now =>
    if s.stage = .settling then none
    else some { s.handleDone key session (settleCaptureTask task) now with
      unprocessed := s.unprocessed.erase (key, session.epoch) }
  | .expedite now =>
    if s.stage = .managing && s.deviceIo then some (s.expeditePendingRestores now) else none
  | .shutdown =>
    if s.stage = .managing then some { s.reconcileSessions rules [] with stage := .draining } else none
  | .drained now =>
    if s.stage = .draining then
      let s := if rules.drainsByReconcile then s else s.expeditePendingRestores now
      some { s with stage := .settling }
    else none
  | .settle turn =>
    if s.stage = .settling && s.deviceIo then some (s.settle rules turn) else none

end Sys

end

end Capture
end OpenLogi
