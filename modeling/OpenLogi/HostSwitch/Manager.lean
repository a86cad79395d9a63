import OpenLogi.Hid.Route
import OpenLogi.Lib.Run
/-!
# Manager — keeping host-switch links armed

One session watches each linked keyboard.  A session that ends may owe the firmware a restore and may ask for a
transition, of which there is one at a time.  `HostSwitchManagerState` and its methods as `host_switch.rs` has them, and
over them the manager's loop with the tasks it spawned.  An instant is a number of nanoseconds; an epoch is counted, not
wrapped.
-/
namespace OpenLogi
namespace HostSwitch

open Hid (DeviceRoute)

/-- How long a manager waits before it retries a restore or re-arms a session that failed. -/
def retryDelay : Nat := 1000000000

def departureTimeout : Nat := 10000000000

/-! ## Data -/

structure HostSwitchLink where
  keyboard : DeviceRoute
  targets : List DeviceRoute
  deriving DecidableEq

/-- Queued or active exclusive receiver requests. -/
structure ReceiverRequestState where
  pairing : Nat
  hostTransition : Nat
  deriving DecidableEq

def ReceiverRequestState.any (requests : ReceiverRequestState) : Bool :=
  requests.pairing ≠ 0 || requests.hostTransition ≠ 0

inductive SessionPhase where
  | active
  | draining
  deriving DecidableEq

structure RunningSession where
  link : HostSwitchLink
  epoch : Nat
  phase : SessionPhase
  deriving DecidableEq

def RunningSession.stop (session : RunningSession) : RunningSession := { session with phase := .draining }

/-- A transition that was asked for. -/
structure TransitionIntent where
  link : HostSwitchLink
  host : UInt8
  deriving DecidableEq

inductive TransitionPhase where
  | waiting (intent : TransitionIntent)
  | running
  deriving DecidableEq

inductive HostSwitchFollowUp where
  | rearm
  | switch (host : UInt8)
  | awaitDeparture
  deriving DecidableEq

inductive ManagerCompletion where
  | graceful
  | unexpected
  deriving DecidableEq

variable {T : Type}

/-- `T` is a restore token. -/
inductive RestorePhase (T : Type) where
  | ready (token : T) (retryAt : Nat)
  | restoring
  deriving DecidableEq

structure Recovery (T : Type) where
  link : HostSwitchLink
  epoch : Nat
  requestedHost : Option UInt8
  restore : RestorePhase T
  deriving DecidableEq

inductive HostSwitchSlot (T : Type) where
  | running (session : RunningSession)
  | recovering (recovery : Recovery T)
  | restarting (link : HostSwitchLink) (retryAt : Nat)
  /-- The keyboard is leaving by itself: no successor arms until its link goes or the deadline passes. -/
  | departing (link : HostSwitchLink) (deadline : Nat)
  deriving DecidableEq

structure SessionResult (T : Type) where
  followUp : HostSwitchFollowUp
  pendingRestore : Option T
  failed : Bool

inductive HostSwitchRestoreOutcome (T : Type) where
  | restorePending (token : T)
  | restored

structure HostSwitchManagerState (T : Type) where
  slots : List (HostSwitchSlot T)
  lastEpoch : Nat
  transition : Option TransitionPhase
  taskFailed : Bool
  deriving DecidableEq

namespace HostSwitchSlot

def link : HostSwitchSlot T → HostSwitchLink
  | .running session => session.link
  | .recovering recovery => recovery.link
  | .restarting link _ | .departing link _ => link

def keyboard (slot : HostSwitchSlot T) : DeviceRoute := slot.link.keyboard

/-- The session the slot belongs to. -/
def epoch? : HostSwitchSlot T → Option Nat
  | .running session => some session.epoch
  | .recovering recovery => some recovery.epoch
  | .restarting _ _ | .departing _ _ => none

def isRunning : HostSwitchSlot T → Bool
  | .running _ => true
  | _ => false

def isRecovering : HostSwitchSlot T → Bool
  | .recovering _ => true
  | _ => false

/-- Whether a completion of this session settles the slot. -/
def runs (epoch : Nat) : HostSwitchSlot T → Bool
  | .running session => session.epoch = epoch
  | _ => false

/-- Whether a restore of this session settles the slot. -/
def recovers (epoch : Nat) : HostSwitchSlot T → Bool
  | .recovering recovery => recovery.epoch = epoch
  | _ => false

end HostSwitchSlot

/-! ## The state's methods -/

/-- The recovery once the publication was looked at: a request for a link that is gone is dropped. -/
def Recovery.reconcile (published : List HostSwitchLink) (recovery : Recovery T) : Recovery T :=
  if recovery.link ∈ published then recovery else { recovery with requestedHost := none }

namespace HostSwitchManagerState

def new : HostSwitchManagerState T := ⟨[], 0, none, false⟩

def hasPendingRestores (s : HostSwitchManagerState T) : Bool := s.slots.any HostSwitchSlot.isRecovering

def hasRunningSessions (s : HostSwitchManagerState T) : Bool := s.slots.any HostSwitchSlot.isRunning

def ownsKeyboard (s : HostSwitchManagerState T) (keyboard : DeviceRoute) : Bool :=
  s.slots.any fun slot => slot.keyboard = keyboard

/-- Forget a waiting transition whose link is gone, or any once the manager stops. -/
def reconcileTransition (s : HostSwitchManagerState T) (published : List HostSwitchLink) (terminal : Bool) :
    HostSwitchManagerState T :=
  match s.transition with
  | some (.waiting intent) => if terminal || intent.link ∉ published then { s with transition := none } else s
  | _ => s

/-- The waiting transition becomes the running one, once no session runs and no restore is owed. -/
def beginTransition (s : HostSwitchManagerState T) (terminal : Bool) :
    Option TransitionIntent × HostSwitchManagerState T :=
  if terminal || s.hasRunningSessions || s.hasPendingRestores then (none, s)
  else
    match s.transition with
    | some (.waiting intent) => (some intent, { s with transition := some .running })
    | _ => (none, s)

def terminalCompletion (s : HostSwitchManagerState T) (terminal : Bool) : Option ManagerCompletion :=
  if terminal && !s.hasRunningSessions && !s.hasPendingRestores && s.transition.isNone then
    some (if s.taskFailed then .unexpected else .graceful)
  else none

def stopSession (wanted : List HostSwitchLink) (terminal : Bool) : HostSwitchSlot T → HostSwitchSlot T
  | .running session =>
    if terminal || session.link ∉ wanted then .running session.stop else .running session
  | slot => slot

def stopSessions (s : HostSwitchManagerState T) (wanted : List HostSwitchLink) (terminal : Bool) :
    HostSwitchManagerState T :=
  { s with slots := s.slots.map (stopSession wanted terminal) }

/-- Whether a slot that only waits goes on waiting. -/
def retains (published : List HostSwitchLink) (requests : ReceiverRequestState) (terminal : Bool) (now : Nat) :
    HostSwitchSlot T → Bool
  | .restarting link retryAt => !terminal && link ∈ published && (now < retryAt || requests.any)
  | .departing link deadline => !terminal && link ∈ published && now < deadline
  | .running _ | .recovering _ => true

/-- The restores that are due, each taking a receiver lease; `leases` of them are granted, and the pass ends at the
first that is refused.  The slots, and the token each restore task took with its epoch. -/
def retryDue (published : List HostSwitchLink) (requests : ReceiverRequestState) (now : Nat) :
    Nat → List (HostSwitchSlot T) → List (HostSwitchSlot T) × List (Nat × T)
  | _, [] => ([], [])
  | leases, .recovering recovery :: rest =>
    let recovery := Recovery.reconcile published recovery
    match recovery.restore with
    | .restoring =>
      let (slots, tasks) := retryDue published requests now leases rest
      (.recovering recovery :: slots, tasks)
    | .ready token retryAt =>
      if now < retryAt || requests.any then
        let (slots, tasks) := retryDue published requests now leases rest
        (.recovering recovery :: slots, tasks)
      else
        match leases with
        | 0 => (.recovering recovery :: rest, [])
        | leases + 1 =>
          let (slots, tasks) := retryDue published requests now leases rest
          (.recovering { recovery with restore := .restoring } :: slots, (recovery.epoch, token) :: tasks)
  | leases, slot :: rest =>
    let (slots, tasks) := retryDue published requests now leases rest
    (slot :: slots, tasks)

/-- Start a session of every wanted link whose keyboard has no slot, as far as the leases go.  Each start is noted with
the state it was made in. -/
def spawnSuccessors : Nat → List HostSwitchLink → HostSwitchManagerState T →
    HostSwitchManagerState T × List (HostSwitchLink × HostSwitchManagerState T)
  | _, [], s => (s, [])
  | leases, link :: wanted, s =>
    if s.ownsKeyboard link.keyboard then spawnSuccessors leases wanted s
    else
      match leases with
      | 0 => (s, [])
      | leases + 1 =>
        let epoch := s.lastEpoch + 1
        let (s', starts) := spawnSuccessors leases wanted
          { s with lastEpoch := epoch, slots := s.slots ++ [.running ⟨link, epoch, .active⟩] }
        (s', (link, s) :: starts)

/-- The slot, or the waiting transition, that a session's result leaves. -/
def settleSession (s : HostSwitchManagerState T) (session : RunningSession) (result : SessionResult T)
    (published : List HostSwitchLink) (terminal : Bool) (now : Nat) : HostSwitchManagerState T :=
  let requestIsCurrent := !terminal && session.link ∈ published
  let requestedHost :=
    match result.followUp with
    | .switch host => if requestIsCurrent then some host else none
    | .rearm | .awaitDeparture => none
  let departing := result.followUp = .awaitDeparture
  match result.pendingRestore with
  | some token =>
    -- a keyboard that is leaving cannot answer a restore write
    let firstRetry := if departing then departureTimeout else retryDelay
    { s with slots := s.slots ++ [.recovering ⟨session.link, session.epoch, requestedHost,
        .ready token (now + firstRetry)⟩] }
  | none =>
    match requestedHost with
    | some host => { s with transition := some (.waiting ⟨session.link, host⟩) }
    | none =>
      if departing && requestIsCurrent then
        { s with slots := s.slots ++ [.departing session.link (now + departureTimeout)] }
      else if result.failed && requestIsCurrent then
        { s with slots := s.slots ++ [.restarting session.link (now + retryDelay)] }
      else s

/-- A completed session; `none` is a task that panicked. -/
def handleSessionCompletion (s : HostSwitchManagerState T) (epoch : Nat) (result : Option (SessionResult T))
    (published : List HostSwitchLink) (terminal : Bool) (now : Nat) : HostSwitchManagerState T :=
  match s.slots.find? (HostSwitchSlot.runs epoch) with
  | some (.running session) =>
    let s := { s with slots := s.slots.eraseP (HostSwitchSlot.runs epoch) }
    match result with
    | none => { s with taskFailed := true }
    | some result => s.settleSession session result published terminal now
  | _ => s

/-- A completed restore; `none` is a task that panicked. -/
def handleRestoreCompletion (s : HostSwitchManagerState T) (epoch : Nat)
    (result : Option (HostSwitchRestoreOutcome T)) (published : List HostSwitchLink) (terminal : Bool) (now : Nat) :
    HostSwitchManagerState T :=
  match s.slots.find? (HostSwitchSlot.recovers epoch) with
  | some (.recovering recovery) =>
    let s := { s with slots := s.slots.eraseP (HostSwitchSlot.recovers epoch) }
    match result with
    | some (.restorePending token) =>
      { s with slots := s.slots ++ [.recovering { recovery with restore := .ready token (now + retryDelay) }] }
    | some .restored =>
      let requestIsCurrent := !terminal && recovery.link ∈ published
      match recovery.requestedHost.filter fun _ => requestIsCurrent with
      | some host => { s with transition := some (.waiting ⟨recovery.link, host⟩) }
      | none => s
    | none => { s with taskFailed := true }
  | _ => s

/-- The transition task ended; `false` is one that panicked. -/
def handleTransition (s : HostSwitchManagerState T) (ok : Bool) : HostSwitchManagerState T :=
  { s with taskFailed := s.taskFailed || !ok, transition := none }

/-- Every restore that waits for its retry is due now. -/
def expedite (now : Nat) : HostSwitchSlot T → HostSwitchSlot T
  | .recovering recovery =>
    match recovery.restore with
    | .ready token _ => .recovering { recovery with restore := .ready token now }
    | .restoring => .recovering recovery
  | slot => slot

def expeditePendingRestores (s : HostSwitchManagerState T) (now : Nat) : HostSwitchManagerState T :=
  { s with slots := s.slots.map (expedite now) }

end HostSwitchManagerState

/-! ## The loop -/

/-- A task the manager spawned, up to the handling of its completion. -/
inductive Task (T : Type) where
  | session (epoch : Nat) (link : HostSwitchLink)
  | restore (epoch : Nat) (token : T)
  | transition (intent : TransitionIntent)
  deriving DecidableEq

/-- The manager, what it watches and the tasks it spawned.  The last four fields are a record no operation reads. -/
structure Sys (T : Type) where
  state : HostSwitchManagerState T
  terminal : Bool
  links : List HostSwitchLink
  requests : ReceiverRequestState
  ioAllowed : Bool
  tasks : List (Task T)
  ended : Option ManagerCompletion
  /-- The links whose session was started, each with the state it was started in. -/
  starts : List (HostSwitchLink × HostSwitchManagerState T)
  /-- The restore tokens that sessions handed over and no restore reported restored, with their epoch. -/
  owed : List (Nat × T)
  /-- The accepted requests that no transition was begun for and whose link stayed published. -/
  accepted : List TransitionIntent
  begun : List TransitionIntent
  deriving DecidableEq

inductive Event (T : Type) where
  | publish (links : List HostSwitchLink)
  | receiver (requests : ReceiverRequestState)
  | deviceIo (allowed : Bool)
  | shutdown
  | registry (now : Nat)
  /-- The head of the loop, with how many receiver leases its restores and its sessions are granted. -/
  | reconcile (now leases leases' : Nat)
  | session (epoch : Nat) (result : Option (SessionResult T)) (now : Nat)
  | restore (epoch : Nat) (result : Option (HostSwitchRestoreOutcome T)) (now : Nat)
  | transition (ok : Bool)

namespace Sys

def start : Sys T := ⟨.new, false, [], ⟨0, 0⟩, true, [], none, [], [], [], []⟩

/-- The links that should be armed. -/
def wanted (s : Sys T) : List HostSwitchLink :=
  if s.terminal || s.requests.any || s.state.transition.isSome then [] else s.links

def reconcileTransition (s : Sys T) : Sys T := { s with state := s.state.reconcileTransition s.links s.terminal }

def stopSessions (s : Sys T) : Sys T :=
  if s.ioAllowed || s.terminal then { s with state := s.state.stopSessions s.wanted s.terminal } else s

def retain (s : Sys T) (now : Nat) : Sys T :=
  let slots := s.state.slots.filter (HostSwitchManagerState.retains s.links s.requests s.terminal now)
  { s with state := { s.state with slots := slots } }

def retryDue (s : Sys T) (now leases : Nat) : Sys T :=
  let (slots, tokens) := HostSwitchManagerState.retryDue s.links s.requests now leases s.state.slots
  { s with
    state := { s.state with slots := slots }
    tasks := s.tasks ++ tokens.map fun token => .restore token.1 token.2 }

def reconcileRecoveries (s : Sys T) (now leases : Nat) : Sys T :=
  if s.ioAllowed then (s.retain now).retryDue now leases else s

def spawnSuccessors (s : Sys T) (wanted : List HostSwitchLink) (leases : Nat) : Sys T :=
  if s.ioAllowed && !s.terminal && s.state.transition.isNone then
    let (state, starts) := HostSwitchManagerState.spawnSuccessors leases wanted s.state
    { s with
      state := state
      tasks := s.tasks ++ starts.map fun start => .session (start.2.lastEpoch + 1) start.1
      starts := starts ++ s.starts }
  else s

/-- Return when everything is done, else begin the waiting transition. -/
def finish (s : Sys T) : Sys T :=
  match s.state.terminalCompletion s.terminal with
  | some completion => { s with ended := some completion }
  | none =>
    match s.state.beginTransition s.terminal with
    | (none, _) => s
    | (some intent, state) =>
      { s with
        state := state
        tasks := s.tasks ++ [.transition intent]
        accepted := s.accepted.filter (· ≠ intent)
        begun := intent :: s.begun }

/-- The head of the loop. -/
def reconcile (s : Sys T) (now leases leases' : Nat) : Sys T :=
  let s := s.reconcileTransition
  let wanted := s.wanted
  ((s.stopSessions.reconcileRecoveries now leases).spawnSuccessors wanted leases').finish

/-- The request that a completed session's result makes, where its link is published and the manager goes on. -/
def acceptedRequest (s : Sys T) (link : HostSwitchLink) : Option (SessionResult T) → List TransitionIntent
  | some ⟨.switch host, _, _⟩ => if !s.terminal && link ∈ s.links then [⟨link, host⟩] else []
  | _ => []

def isSession (epoch : Nat) : Task T → Bool
  | .session e _ => e = epoch
  | _ => false

def isRestore (epoch : Nat) : Task T → Bool
  | .restore e _ => e = epoch
  | _ => false

def isTransition : Task T → Bool
  | .transition _ => true
  | _ => false

/-- The token a session's result hands over. -/
def handsOver (epoch : Nat) : Option (SessionResult T) → List (Nat × T)
  | some ⟨_, some token, _⟩ => [(epoch, token)]
  | _ => []

/-- The token a restore gives back; one that panicked gives none. -/
def givesBack (epoch : Nat) : Option (HostSwitchRestoreOutcome T) → List (Nat × T)
  | some (.restorePending token) => [(epoch, token)]
  | _ => []

def step (s : Sys T) (event : Event T) : Option (Sys T) :=
  if s.ended.isSome then none
  else
    match event with
    | .publish links => some { s with links := links, accepted := s.accepted.filter fun r => r.link ∈ links }
    | .receiver requests => some { s with requests := requests }
    | .deviceIo allowed => some { s with ioAllowed := allowed }
    | .shutdown => if s.terminal then none else some { s with terminal := true, accepted := [] }
    | .registry now => some { s with state := s.state.expeditePendingRestores now }
    | .reconcile now leases leases' => some (s.reconcile now leases leases')
    | .session epoch result now =>
      match s.tasks.find? (isSession epoch) with
      | some (.session _ link) =>
        some { s with
          state := s.state.handleSessionCompletion epoch result s.links s.terminal now
          tasks := s.tasks.eraseP (isSession epoch)
          owed := handsOver epoch result ++ s.owed
          accepted := s.acceptedRequest link result ++ s.accepted }
      | _ => none
    | .restore epoch result now =>
      if s.tasks.any (isRestore epoch) then
        some { s with
          state := s.state.handleRestoreCompletion epoch result s.links s.terminal now
          tasks := s.tasks.eraseP (isRestore epoch)
          owed := givesBack epoch result ++ s.owed.filter fun token => token.1 ≠ epoch }
      else none
    | .transition ok =>
      if s.tasks.any isTransition then
        some { s with state := s.state.handleTransition ok, tasks := s.tasks.eraseP isTransition }
      else none

end Sys

end HostSwitch
end OpenLogi
