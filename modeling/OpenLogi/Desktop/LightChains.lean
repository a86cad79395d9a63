import OpenLogi.Desktop.LightEdits
import OpenLogi.Lib.Run
/-!
# LightChains — what a chain of edits should leave

The edits whose commands overlap form a chain.  A run of one light is told beside its state: what was kept before the
chain, its commands in the order they were sent with what came of each, the newest edit, and the manual overrides chosen
since the last camera transition.
-/
namespace OpenLogi
namespace Desktop
namespace LightEdits

open Hid (DeviceRoute)
open Lights (LightCapabilities LightCommand LightControl)

/-! ## The values that commands carry -/

def carried : LightCommand → (c : LightControl) → Option c.Value
  | .power enabled, .power => some enabled
  | .brightnessPercent percent, .brightness => some percent
  | .temperatureKelvin kelvin, .temperature => some kelvin
  | _, _ => none

/-- The value of the latest command that carries the control. -/
def latest (c : LightControl) (commands : List LightCommand) : Option c.Value :=
  commands.foldl (fun value command => (carried command c).or value) none

def LightSettings.get (settings : LightSettings) (c : LightControl) : Option c.Value := settings.toLightSettings.get c

theorem foldl_latest (c : LightControl) : ∀ (commands : List LightCommand) (value : Option c.Value),
    commands.foldl (fun value command => (carried command c).or value) value = (latest c commands).or value
  | [], _ => rfl
  | command :: commands, value => by
    rw [latest, List.foldl_cons, List.foldl_cons, foldl_latest c commands, foldl_latest c commands, Option.or_none,
      Option.or_assoc]

theorem latest_cons (c : LightControl) (command : LightCommand) (commands : List LightCommand) :
    latest c (command :: commands) = (latest c commands).or (carried command c) := by
  rw [latest, List.foldl_cons, foldl_latest, Option.or_none]

theorem latest_append (c : LightControl) (xs ys : List LightCommand) :
    latest c (xs ++ ys) = (latest c ys).or (latest c xs) := by
  rw [latest, List.foldl_append, foldl_latest]
  rfl

/-- **What applied commands leave** under a control: the latest value carried, else the old one. -/
theorem get_foldl_applyLightCommand (c : LightControl) : ∀ (commands : List LightCommand) (settings : LightSettings),
    (commands.foldl applyLightCommand settings).get c = (latest c commands).or (settings.get c)
  | [], _ => rfl
  | command :: commands, settings => by
    have hone : (applyLightCommand settings command).get c = (carried command c).or (settings.get c) := by
      cases command <;> cases c <;> rfl
    rw [List.foldl_cons, get_foldl_applyLightCommand c commands, hone, latest_cons, Option.or_assoc]

/-- No command carries the other settings. -/
theorem rest_foldl_applyLightCommand (commands : List LightCommand) (settings : LightSettings) :
    (commands.foldl applyLightCommand settings).autoCamera = settings.autoCamera ∧
      (commands.foldl applyLightCommand settings).color = settings.color := by
  refine List.foldlRecOn (motive := fun s : LightSettings =>
    s.autoCamera = settings.autoCamera ∧ s.color = settings.color) _ _ ⟨rfl, rfl⟩ fun s h command _ => ?_
  cases command <;> exact h

theorem control_of_carried {command : LightCommand} {c : LightControl} {v : c.Value}
    (h : carried command c = some v) : command.control = c := by
  cases command <;> cases c <;> first | rfl | cases h

/-- Where no two commands carry one control, any of them is the latest. -/
theorem latest_eq_some (c : LightControl) (v : c.Value) : ∀ {commands : List LightCommand},
    (commands.map LightCommand.control).Nodup →
      (latest c commands = some v ↔ ∃ command ∈ commands, carried command c = some v)
  | [], _ => ⟨fun h => (by cases h), fun ⟨_, h, _⟩ => absurd h List.not_mem_nil⟩
  | command :: commands, hnodup => by
    rw [List.map_cons, List.nodup_cons] at hnodup
    have ih := latest_eq_some c v hnodup.2
    rw [latest_cons]
    constructor
    · intro h
      rcases Option.or_eq_some_iff.1 h with h | ⟨-, h⟩
      · obtain ⟨other, hother, hv⟩ := ih.1 h
        exact ⟨other, List.mem_cons_of_mem _ hother, hv⟩
      · exact ⟨command, List.mem_cons_self, h⟩
    · rintro ⟨other, hother, hv⟩
      rcases List.mem_cons.1 hother with rfl | hother
      · have hnone : latest c commands = none := by
          cases hlatest : latest c commands with
          | none => rfl
          | some w =>
            obtain ⟨later, hlater, hw⟩ := (latest_eq_some c w hnodup.2).1 hlatest
            have hmem : later.control ∈ commands.map LightCommand.control := List.mem_map_of_mem hlater
            rw [control_of_carried hw, ← control_of_carried hv] at hmem
            exact absurd hmem hnodup.1
        rw [hnone, Option.none_or, hv]
      · rw [ih.2 ⟨other, hother, hv⟩]
        rfl

/-- The order of commands of different controls does not matter. -/
theorem latest_perm (c : LightControl) {xs ys : List LightCommand} (h : xs.Perm ys)
    (hnodup : (xs.map LightCommand.control).Nodup) : latest c xs = latest c ys := by
  ext v
  rw [latest_eq_some c v hnodup, latest_eq_some c v ((h.map LightCommand.control).nodup_iff.1 hnodup)]
  constructor
  · rintro ⟨command, hcommand, hv⟩
    exact ⟨command, h.mem_iff.1 hcommand, hv⟩
  · rintro ⟨command, hcommand, hv⟩
    exact ⟨command, h.mem_iff.2 hcommand, hv⟩

/-! ## The commands of a chain -/

def succeeded (sent : List SentCommand) : List LightCommand :=
  (sent.filter SentCommand.hasSucceeded).map SentCommand.command

def isOk : Except String Unit → Bool
  | .ok _ => true
  | .error _ => false

/-- The result of one outstanding command. -/
def SentCommand.answered (requestId : Nat) (command : LightCommand) (ok : Bool) (sent : SentCommand) : SentCommand :=
  if sent.requestId = requestId ∧ sent.command = command ∧ sent.outcome = none then { sent with outcome := some ok }
  else sent

def AppState.isOutstanding (s : AppState) : Bool := s.ipc.sent.any SentCommand.isOutstanding

/-- The command is outstanding. -/
def AppState.awaits (s : AppState) (requestId : Nat) (command : LightCommand) : Bool :=
  s.ipc.sent.any fun sent => sent.requestId = requestId && sent.command = command && sent.isOutstanding

/-! ## A run of one light -/

/-- What a run tells of the current chain: `first` and `own` count the commands sent before it and before its newest
edit; `chosen` and `tried` are the overrides chosen since the last camera transition, those by the chain's commands
apart, as they are not the light's before one succeeds. -/
structure Told where
  before : LightSettings
  first : Nat
  newest : LightSettings
  own : Nat
  chosen : List Bool
  tried : List Bool
  deriving DecidableEq

inductive LightEvent where
  | commit (light : LightSettings)
  | manualPower (enabled : Bool)
  | recordChanged (route : Option DeviceRoute) (online : Bool) (lightCapabilities : Option LightCapabilities)
  | camera (active : Bool)
  | answered (requestId : Nat) (command : LightCommand) (result : Except String Unit)

structure Sys where
  app : AppState
  told : Told
  deriving DecidableEq

namespace Told

/-- An edit starts a chain where nothing is outstanding, and else goes on with it. -/
def edited (t : Told) (app : AppState) (light : LightSettings) : Told :=
  let sent := app.ipc.sent.length
  if app.isOutstanding then { t with newest := light, own := sent }
  else { t with before := app.lightFor, first := sent, newest := light, own := sent }

def choosing (t : Told) (enabled isSent : Bool) : Told :=
  if isSent then { t with tried := enabled :: t.tried } else { t with chosen := enabled :: t.chosen }

/-- Once nothing is outstanding, an override that the chain chose counts unless it failed to set the power. -/
def closed (t : Told) (app : AppState) : Told :=
  let chain := app.ipc.sent.drop t.first
  if app.isOutstanding then t
  else if chain.any SentCommand.hasFailed && !(succeeded chain).any isPower then { t with tried := [] }
  else { t with chosen := t.tried ++ t.chosen, tried := [] }

end Told

namespace Sys

variable (s : Sys)

def chain : List SentCommand := s.app.ipc.sent.drop s.told.first

def own : List SentCommand := s.app.ipc.sent.drop s.told.own

/-- The light with the result in the log, before it is settled. -/
def marked (requestId : Nat) (command : LightCommand) (result : Except String Unit) : AppState :=
  { s.app with ipc := { s.app.ipc with
    sent := s.app.ipc.sent.map (SentCommand.answered requestId command (isOk result)) } }

def step : LightEvent → Option Sys
  | .commit light =>
    let app := s.app.commitLight light
    some ⟨app, (s.told.edited s.app light).closed app⟩
  | .manualPower enabled =>
    let app := s.app.commitManualLightPower enabled
    let told := s.told.edited s.app { s.app.lightFor with enabled }
    let told := if s.app.cameraPolicyApplies s.app.lightFor
      then told.choosing enabled (s.app.ipc.sent.length < app.ipc.sent.length) else told
    some ⟨app, told.closed app⟩
  | .recordChanged route online lightCapabilities =>
    some ⟨{ s.app with record := { s.app.record with route, online, lightCapabilities } }, s.told⟩
  | .camera active =>
    some ⟨s.app.setCameraActive active,
      if s.app.lights.cameraActive ≠ active then { s.told with chosen := [], tried := [] } else s.told⟩
  | .answered requestId command result =>
    if s.app.awaits requestId command then
      let app := ((s.marked requestId command result).settleLightCommand requestId command result).2
      some ⟨app, s.told.closed app⟩
    else none

/-! ## What should be kept -/

/-- The settings kept once nothing is outstanding. -/
structure KeepsNewest : Prop where
  newest : s.chain.any SentCommand.hasFailed = false → s.app.lightFor = s.told.newest
  carried : s.chain.any SentCommand.hasFailed = true →
    ∀ c, s.app.lightFor.get c = (latest c (succeeded s.chain)).or (s.told.before.get c)
  rest : s.chain.any SentCommand.hasFailed = true → s.own ≠ [] → s.own.all SentCommand.hasSucceeded = true →
    s.app.lightFor.autoCamera = s.told.newest.autoCamera ∧ s.app.lightFor.color = s.told.newest.color
  undone : s.chain.any SentCommand.hasFailed = true → succeeded s.chain = [] → s.app.lightFor = s.told.before

/-- **Edits settle to the newest**, and no override from before the last camera transition comes back. -/
structure SettlesToNewest : Prop where
  kept : s.app.isOutstanding = false → s.KeepsNewest
  override : ∀ enabled, s.app.light.manualOverride = some enabled → enabled ∈ s.told.chosen ∨ enabled ∈ s.told.tried

instance (s : Sys) : Decidable s.KeepsNewest :=
  decidable_of_iff
    ((s.chain.any SentCommand.hasFailed = false → s.app.lightFor = s.told.newest) ∧
      (s.chain.any SentCommand.hasFailed = true →
        s.app.lightFor.get .power = (latest .power (succeeded s.chain)).or (s.told.before.get .power) ∧
          s.app.lightFor.get .brightness = (latest .brightness (succeeded s.chain)).or (s.told.before.get .brightness) ∧
          s.app.lightFor.get .temperature =
            (latest .temperature (succeeded s.chain)).or (s.told.before.get .temperature)) ∧
      (s.chain.any SentCommand.hasFailed = true → s.own ≠ [] → s.own.all SentCommand.hasSucceeded = true →
        s.app.lightFor.autoCamera = s.told.newest.autoCamera ∧ s.app.lightFor.color = s.told.newest.color) ∧
      (s.chain.any SentCommand.hasFailed = true → succeeded s.chain = [] → s.app.lightFor = s.told.before))
    ⟨fun ⟨hnewest, hcarried, hrest, hundone⟩ =>
      ⟨hnewest, fun hf c => by cases c <;> [exact (hcarried hf).1; exact (hcarried hf).2.1; exact (hcarried hf).2.2],
        hrest, hundone⟩,
      fun h => ⟨h.newest, fun hf => ⟨h.carried hf _, h.carried hf _, h.carried hf _⟩, h.rest, h.undone⟩⟩

instance (s : Sys) : Decidable s.SettlesToNewest :=
  decidable_of_iff
    ((s.app.isOutstanding = false → s.KeepsNewest) ∧
      ∀ enabled, s.app.light.manualOverride = some enabled → enabled ∈ s.told.chosen ∨ enabled ∈ s.told.tried)
    ⟨fun h => ⟨h.1, h.2⟩, fun h => ⟨h.kept, h.override⟩⟩

/-! ## When the code does so -/

/-- What the last result of a chain should find, with the chain's commands and the newest edit's own. -/
structure Reconciles (pending : PendingLightCommand) (chain own : List SentCommand) : Prop where
  newest : chain.any SentCommand.hasFailed = false → s.app.record.persistent = true →
    pending.settings = some s.told.newest
  saved : chain.any SentCommand.hasFailed = true → succeeded chain = [] → s.app.record.persistent = true →
    s.app.config.getD .default = s.told.before
  rest : chain.any SentCommand.hasFailed = true → own ≠ [] → own.all SentCommand.hasSucceeded = true →
    s.told.before.autoCamera = s.told.newest.autoCamera ∧ s.told.before.color = s.told.newest.color
  aside : chain.any SentCommand.hasFailed = true → (succeeded chain).any isPower = false →
    ∀ enabled, pending.manualOverrideRollback = some ⟨some enabled⟩ → enabled ∈ s.told.chosen

set_option synthInstance.maxSize 256 in
instance (s : Sys) (pending : PendingLightCommand) (chain own : List SentCommand) :
    Decidable (s.Reconciles pending chain own) :=
  decidable_of_iff
    ((chain.any SentCommand.hasFailed = false → s.app.record.persistent = true →
        pending.settings = some s.told.newest) ∧
      (chain.any SentCommand.hasFailed = true → succeeded chain = [] → s.app.record.persistent = true →
        s.app.config.getD .default = s.told.before) ∧
      (chain.any SentCommand.hasFailed = true → own ≠ [] → own.all SentCommand.hasSucceeded = true →
        s.told.before.autoCamera = s.told.newest.autoCamera ∧ s.told.before.color = s.told.newest.color) ∧
      (chain.any SentCommand.hasFailed = true → (succeeded chain).any isPower = false →
        ∀ enabled, pending.manualOverrideRollback = some ⟨some enabled⟩ → enabled ∈ s.told.chosen))
    ⟨fun ⟨hnewest, hsaved, hrest, haside⟩ => ⟨hnewest, hsaved, hrest, haside⟩,
      fun h => ⟨h.newest, h.saved, h.rest, h.aside⟩⟩

/-- The result of the last outstanding command finds so; no other event asks anything. -/
def Reconcilable : LightEvent → Prop
  | .answered requestId command result =>
    s.app.awaits requestId command = true → (s.marked requestId command result).isOutstanding = false →
      ∀ pending, s.app.light.pending = some pending →
        s.Reconciles pending ((s.marked requestId command result).ipc.sent.drop s.told.first)
          ((s.marked requestId command result).ipc.sent.drop s.told.own)
  | _ => True

instance (s : Sys) : (e : LightEvent) → Decidable (s.Reconcilable e)
  | .answered requestId command result =>
    inferInstanceAs (Decidable (s.app.awaits requestId command = true →
      (s.marked requestId command result).isOutstanding = false →
        ∀ pending ∈ s.app.light.pending,
          s.Reconciles pending ((s.marked requestId command result).ipc.sent.drop s.told.first)
            ((s.marked requestId command result).ipc.sent.drop s.told.own)))
  | .commit _ | .manualPower _ | .recordChanged .. | .camera _ => isTrue trivial

end Sys

end LightEdits
end Desktop
end OpenLogi
