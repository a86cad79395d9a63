import OpenLogi.Lights.Changes
/-!
# LightEdits — optimistic edits of a standalone light

`state/light.rs` for one light: an edit shows at once and is kept for good when the commands that carry it succeed.  An
edit made while older commands are outstanding supersedes them; their results are still counted, so that what is kept in
the end can be told from all of them.
-/
namespace OpenLogi
namespace Desktop
namespace LightEdits

open Hid (DeviceRoute)
open Lights (LightCapabilities LightCommand)

structure Rgb where
  r : UInt8
  g : UInt8
  b : UInt8
  deriving DecidableEq

/-- The settings with the colour that no light command carries. -/
structure LightSettings extends Lights.LightSettings where
  color : Option Rgb
  deriving DecidableEq

def LightSettings.default : LightSettings where
  enabled := true
  autoCamera := false
  brightnessPercent := 100
  temperatureKelvin := none
  color := none

def commandsForLightSettings (settings : LightSettings) (capabilities : LightCapabilities) : List LightCommand :=
  (if capabilities.power then [.power settings.enabled] else []) ++
    (if capabilities.brightness.isSome then [.brightnessPercent settings.brightnessPercent] else []) ++
    (if capabilities.temperature.isSome then (settings.temperatureKelvin.map LightCommand.temperatureKelvin).toList
      else [])

def applyLightCommand (settings : LightSettings) : LightCommand → LightSettings
  | .power enabled => { settings with enabled }
  | .brightnessPercent brightnessPercent => { settings with brightnessPercent }
  | .temperatureKelvin temperatureKelvin => { settings with temperatureKelvin := some temperatureKelvin }
  | .brightnessNative _ => settings

/-! ## The state -/

inductive LightCommandStatus where
  | pending
  | failed (error : String)
  | offline
  deriving DecidableEq

structure ManualOverrideRollback where
  previous : Option Bool
  deriving DecidableEq

/-- The commands of one edit: how many are outstanding, and what came of the others. -/
structure LightBatch where
  requestId : Nat
  pending : Nat
  successfulCommands : List LightCommand
  failure : Option String
  deriving DecidableEq

structure PendingLightCommand extends LightBatch where
  settings : Option LightSettings
  persistentKey : Option String
  rollbackSettings : LightSettings
  previousVolatile : Option LightSettings
  manualOverrideRollback : Option ManualOverrideRollback
  superseded : List LightBatch
  deriving DecidableEq

/-- What a fresh `PendingLightCommand` carries beyond its request id. -/
structure PendingLightSetup where
  inFlight : Nat
  settings : LightSettings
  persistentKey : Option String
  rollbackSettings : LightSettings
  previousVolatile : Option LightSettings
  manualOverrideRollback : Option ManualOverrideRollback
  superseded : List LightBatch

/-- The session of the lights; its request ids do not come round within a run. -/
structure LightSession where
  cameraActive : Bool
  nextRequestId : Nat
  deriving DecidableEq

structure LightDeviceState where
  manualOverride : Option Bool
  volatileSettings : Option LightSettings
  pending : Option PendingLightCommand
  status : Option (Nat × LightCommandStatus)
  deriving DecidableEq

structure DeviceRecord where
  configKey : String
  persistent : Bool
  route : Option DeviceRoute
  online : Bool
  lightCapabilities : Option LightCapabilities
  deriving DecidableEq

def DeviceRecord.persistentConfigKey (record : DeviceRecord) : Option String :=
  if record.persistent then some record.configKey else none

/-- A command handed to the client thread; its outcome is missing while it is outstanding. -/
structure SentCommand where
  requestId : Nat
  command : LightCommand
  outcome : Option Bool
  deriving DecidableEq

def SentCommand.isOutstanding (sent : SentCommand) : Bool := sent.outcome = none
def SentCommand.hasFailed (sent : SentCommand) : Bool := sent.outcome = some false
def SentCommand.hasSucceeded (sent : SentCommand) : Bool := sent.outcome = some true

/-- The channel to the client thread: how many more commands it takes, where it is going to be gone, and every command
handed to it so far. -/
structure IpcCommands where
  takes : Option Nat
  sent : List SentCommand
  deriving DecidableEq

/-- The part of `AppState` that concerns one selected light; `config` is what is saved under its key. -/
structure AppState where
  macos : Bool
  record : DeviceRecord
  lights : LightSession
  light : LightDeviceState
  config : Option LightSettings
  ipc : IpcCommands
  deriving DecidableEq

namespace AppState

variable (s : AppState)

/-! ## Reading -/

def cameraPolicyApplies (light : LightSettings) : Bool := s.macos && light.autoCamera

/-- This session's settings or the saved ones. -/
def savedLightFor : Option LightSettings := s.light.volatileSettings.or s.config

def lightFor : LightSettings := s.savedLightFor.getD .default

def lightEnabledFor : Bool :=
  if s.cameraPolicyApplies s.lightFor then s.light.manualOverride.getD s.lights.cameraActive else s.lightFor.enabled

/-! ## Settling -/

def restoreManualOverride (rollback : Option ManualOverrideRollback) : AppState :=
  match rollback with
  | some rollback => { s with light := { s.light with manualOverride := rollback.previous } }
  | none => s

end AppState

/-- One more command of the batch. -/
def LightBatch.counted (batch : LightBatch) : LightBatch := { batch with pending := batch.pending + 1 }

def LightBatch.answered (batch : LightBatch) (command : LightCommand) (result : Except String Unit) : LightBatch :=
  { batch with
    pending := batch.pending - 1
    successfulCommands := match result with
      | .ok _ => batch.successfulCommands ++ [command]
      | .error _ => batch.successfulCommands
    failure := match result with
      | .ok _ => batch.failure
      | .error error => batch.failure.or (some error) }

/-- The first batch of the request takes the result. -/
def answerSuperseded (requestId : Nat) (command : LightCommand) (result : Except String Unit) :
    List LightBatch → Option (List LightBatch)
  | [] => none
  | batch :: rest =>
    if batch.requestId = requestId then some (batch.answered command result :: rest)
    else (answerSuperseded requestId command result rest).map (batch :: ·)

namespace PendingLightCommand

variable (pending : PendingLightCommand)

def answered (requestId : Nat) (command : LightCommand) (result : Except String Unit) : Option PendingLightCommand :=
  if pending.requestId = requestId then
    some { pending with toLightBatch := pending.toLightBatch.answered command result }
  else
    (answerSuperseded requestId command result pending.superseded).map fun superseded => { pending with superseded }

def isOutstanding : Bool := pending.pending ≠ 0 || pending.superseded.any fun batch => batch.pending ≠ 0

/-- The batches of the chain, oldest first. -/
def batches : List LightBatch := pending.superseded ++ [pending.toLightBatch]

def firstFailure : Option String := pending.failure.or (pending.superseded.findSome? LightBatch.failure)

def allSuccessful : List LightCommand := pending.batches.flatMap LightBatch.successfulCommands

end PendingLightCommand

def isPower : LightCommand → Bool
  | .power _ => true
  | _ => false

namespace AppState

variable (s : AppState)

/-- Reconcile one fully settled request with runtime and persisted state. -/
def finishLightCommand (requestId : Nat) (pending : PendingLightCommand) : AppState :=
  match pending.firstFailure with
  | some error =>
    let reconciled :=
      if pending.allSuccessful.isEmpty then
        { s with light := { s.light with volatileSettings := pending.previousVolatile } }.restoreManualOverride
          pending.manualOverrideRollback
      else
        let accepted := pending.allSuccessful.foldl applyLightCommand pending.rollbackSettings
        let kept := match pending.persistentKey with
          | some _ => { s with light := { s.light with volatileSettings := none }, config := some accepted }
          | none => { s with light := { s.light with volatileSettings := some accepted } }
        if pending.allSuccessful.any isPower then kept
        else kept.restoreManualOverride pending.manualOverrideRollback
    { reconciled with light := { reconciled.light with status := some (requestId, .failed error) } }
  | none =>
    let kept := match pending.settings, pending.persistentKey with
      | some settings, some _ => { s with light := { s.light with volatileSettings := none }, config := some settings }
      | _, _ => s
    { kept with light := { kept.light with status := none } }

/-- Record one result against the request it belongs to; whether it belonged to a live one. -/
def settleLightCommand (requestId : Nat) (command : LightCommand) (result : Except String Unit) : Bool × AppState :=
  match s.light.pending.bind fun pending => pending.answered requestId command result with
  | none => (false, s)
  | some pending =>
    -- A sibling may still be queued after the first failure.
    if pending.isOutstanding then (true, { s with light := { s.light with pending := some pending } })
    else (true, { s with light := { s.light with pending := none } }.finishLightCommand requestId pending)

/-! ## Sending -/

def agentUnavailable : String := "background agent is unavailable"

/-- Hand a command to the client thread, unless that is gone. -/
def sendIpc (requestId : Nat) (command : LightCommand) : Bool × AppState :=
  match s.ipc.takes with
  | some 0 => (false, { s with ipc := { s.ipc with sent := s.ipc.sent ++ [⟨requestId, command, some false⟩] } })
  | takes =>
    (true, { s with ipc := ⟨takes.map (· - 1), s.ipc.sent ++ [⟨requestId, command, none⟩]⟩ })

def beginLightCommand (setup : Option PendingLightSetup) : Nat × AppState :=
  let requestId := s.lights.nextRequestId + 1
  let light := match setup with
    | some setup =>
      { s.light with
        pending := some
          { requestId
            pending := setup.inFlight
            settings := some setup.settings
            persistentKey := setup.persistentKey
            rollbackSettings := setup.rollbackSettings
            previousVolatile := setup.previousVolatile
            manualOverrideRollback := setup.manualOverrideRollback
            successfulCommands := []
            failure := none
            superseded := setup.superseded }
        status := some (requestId, .pending) }
    | none => { s.light with status := some (requestId, .offline) }
  (requestId, { s with lights := { s.lights with nextRequestId := requestId }, light })

/-- Hand over a command already counted; a refused one is settled at once. -/
def dispatch (requestId : Nat) (command : LightCommand) : AppState :=
  if (s.sendIpc requestId command).1 then (s.sendIpc requestId command).2
  else ((s.sendIpc requestId command).2.settleLightCommand requestId command (.error agentUnavailable)).2

/-- Count one more command of the request. -/
def countLightCommand (requestId : Nat) : AppState :=
  match s.light.pending with
  | some pending =>
    if pending.requestId = requestId then
      { s with light := { s.light with
        pending := some { pending with toLightBatch := pending.toLightBatch.counted } } }
    else s
  | none => s

def queueLightCommand (requestId : Nat) (command : LightCommand) : AppState :=
  (s.countLightCommand requestId).dispatch requestId command

def supersedeLightCommand : List LightBatch × AppState :=
  match s.light.pending with
  | some pending => (pending.batches, { s with light := { s.light with pending := none } })
  | none => ([], s)

/-! ## Editing -/

/-- The rollback point of a new write, inherited from the one that it supersedes. -/
def lightWriteRollback (fallback : LightSettings) : LightSettings × Option LightSettings :=
  match s.light.pending with
  | some pending => (pending.rollbackSettings, pending.previousVolatile)
  | none => (fallback, s.light.volatileSettings)

def lightModeOverrideRollback (cameraModeChanged : Bool) : Option ManualOverrideRollback :=
  (s.light.pending.bind PendingLightCommand.manualOverrideRollback).or
    (if cameraModeChanged then some ⟨s.light.manualOverride⟩ else none)

/-- Keep an edit that is not sent. -/
def saveLight (light : LightSettings) : AppState :=
  match s.record.persistentConfigKey with
  | some _ => { s with light := { s.light with volatileSettings := none }, config := some light }
  | none => { s with light := { s.light with volatileSettings := some light } }

def cameraModeChanged (light : LightSettings) : Bool := s.macos && s.lightFor.autoCamera ≠ light.autoCamera

/-- The power state that an edit asks of the light. -/
def effectiveEnabled (light : LightSettings) : Bool :=
  if s.cameraPolicyApplies light then
    if s.cameraModeChanged light then s.lights.cameraActive else s.lightEnabledFor
  else light.enabled

def editCommands (light : LightSettings) : List LightCommand :=
  s.record.lightCapabilities.elim [] fun capabilities =>
    commandsForLightSettings { light with enabled := s.effectiveEnabled light } capabilities

def commitLight (light : LightSettings) : AppState :=
  let manualOverrideRollback := s.lightModeOverrideRollback (s.cameraModeChanged light)
  let commands := s.editCommands light
  let rollback := s.lightWriteRollback s.lightFor
  let manualOverride := if s.cameraModeChanged light then none else s.light.manualOverride
  let shown : AppState := { s with light := { s.light with manualOverride, volatileSettings := some light } }
  if commands.isEmpty then shown.saveLight light
  else if s.record.online && s.record.route.isSome then
    let (superseded, rest) := shown.supersedeLightCommand
    let (requestId, begun) := rest.beginLightCommand (some
      { inFlight := 0
        settings := light
        persistentKey := s.record.persistentConfigKey
        rollbackSettings := rollback.1
        previousVolatile := rollback.2
        manualOverrideRollback
        superseded })
    commands.foldl (fun s command => s.queueLightCommand requestId command) begun
  else (shown.beginLightCommand none).2.saveLight light

/-- A transient power choice while camera automation stays on; else an ordinary edit. -/
def commitManualLightPower (enabled : Bool) : AppState :=
  let light := { s.lightFor with enabled }
  if !s.cameraPolicyApplies s.lightFor then s.commitLight light
  else
    let rollback := s.lightWriteRollback s.lightFor
    let manualOverrideRollback := s.lightModeOverrideRollback true
    let shown : AppState :=
      { s with light := { s.light with manualOverride := some enabled, volatileSettings := some light } }
    if s.record.online && s.record.route.isSome then
      let (superseded, rest) := shown.supersedeLightCommand
      let (requestId, begun) := rest.beginLightCommand (some
        { inFlight := 1
          settings := light
          persistentKey := s.record.persistentConfigKey
          rollbackSettings := rollback.1
          previousVolatile := rollback.2
          manualOverrideRollback
          superseded })
      begun.dispatch requestId (.power enabled)
    else
      let offline := (shown.beginLightCommand none).2
      match s.record.persistentConfigKey with
      | some _ => offline.saveLight light
      | none => offline

/-- A real camera transition clears every override. -/
def setCameraActive (active : Bool) : AppState :=
  { s with
    light := { s.light with manualOverride := if s.lights.cameraActive ≠ active then none else s.light.manualOverride }
    lights := { s.lights with cameraActive := active } }

end AppState

end LightEdits
end Desktop
end OpenLogi
