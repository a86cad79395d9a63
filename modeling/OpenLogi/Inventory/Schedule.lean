import Mathlib.Algebra.Group.Nat.Defs
import Mathlib.Data.List.Induction
import OpenLogi.Lib.Run
import OpenLogi.Lib.Sweep
/-!
# Schedule — when the inventory is enumerated next

Three deadlines: a bounded retry after an unhealthy scan, a requested confirmation of settings, and the recovery scan
when nothing else is due.  Instants and durations are nanoseconds.
-/
namespace OpenLogi
namespace Inventory

def fastRetryDelay : Nat := 2 * 10 ^ 9

/-- `PROBE_CACHE_FRESHNESS` without the margin for a late wake. -/
def recoveryScanPeriod : Nat := 30 * 10 ^ 9 - 10 ^ 9

def fastRetryLimit : Nat := 4

inductive HidppEventSource where
  | receiverConnection
  | wirelessDeviceStatus
  | unifiedBattery
  | batteryStatus
  | batteryVoltage
  | adcMeasurement
  | fnInversion
  | extendedDpi
  | multiPlatform
  | disableKeys
  | extendedReportRate
  | backlight
  | hiResWheelRatchet
  deriving DecidableEq

inductive ReconcileTrigger where
  | initial
  | repairRetry
  | deadChannel
  | hidEvent (source : HidppEventSource)
  | hotplug
  | systemResume
  | settingsConfirmation
  | recoveryScan
  deriving DecidableEq

inductive DeadlinePurpose where
  | repairRetry
  | settingsConfirmation
  | recoveryScan
  deriving DecidableEq

structure ScanClock where
  started : Nat
  finished : Nat

inductive ScanOutcome where
  | snapshot (needsRepair : Bool)
  | failed

def ScanOutcome.needsRepair : ScanOutcome → Bool
  | .snapshot needsRepair => needsRepair
  | .failed => true

/-- An unhealthy or failed scan that a retry or a confirmation started. -/
def ScanOutcome.RowOf (outcome : ScanOutcome) (trigger : ReconcileTrigger) : Prop :=
  (trigger = .repairRetry ∨ trigger = .settingsConfirmation) ∧ outcome.needsRepair = true

inductive Confirmation where
  | scheduled (due failures : Nat)
  | awaitingRecovery
  deriving DecidableEq

structure Schedule where
  retryDue : Option Nat
  confirmation : Option Confirmation
  recoveryDue : Nat
  retryCount : Nat

namespace Schedule

def new (now : Nat) : Schedule where
  retryDue := none
  confirmation := none
  recoveryDue := now + recoveryScanPeriod
  retryCount := 0

/-- The next deadline and its purpose.  A retry outranks the recovery scan. -/
def nextDeadline (s : Schedule) : Nat × DeadlinePurpose :=
  let next :=
    match s.retryDue with
    | some due => (due, .repairRetry)
    | none => (s.recoveryDue, .recoveryScan)
  match s.confirmation with
  | some (.scheduled due _) => if due ≤ next.1 then (due, .settingsConfirmation) else next
  | some .awaitingRecovery => next
  | none => next

def confirmsSettings (s : Schedule) (trigger : ReconcileTrigger) : Bool :=
  trigger = .settingsConfirmation || trigger = .recoveryScan && s.confirmation = some .awaitingRecovery

/-- Requests coalesce: a pending one keeps its deadline. -/
def requestSettingsConfirmation (s : Schedule) (now : Nat) : Schedule :=
  match s.confirmation with
  | some _ => s
  | none => { s with confirmation := some (.scheduled (now + fastRetryDelay) 0) }

/-- What a scan makes of the request: only a delivered snapshot satisfies it. -/
def settled (s : Schedule) (trigger : ReconcileTrigger) (outcome : ScanOutcome) (finished : Nat) : Schedule :=
  match s.confirmsSettings trigger, outcome with
  | true, .snapshot _ => { s with confirmation := none }
  | true, .failed =>
    match s.confirmation with
    | some (.scheduled _ failures) =>
      if failures + 1 < fastRetryLimit then
        { s with confirmation := some (.scheduled (finished + fastRetryDelay) (failures + 1)) }
      else { s with confirmation := some .awaitingRecovery }
    | some .awaitingRecovery => s
    | none => s
  | false, .snapshot _ =>
    match s.confirmation with
    | some .awaitingRecovery => { s with confirmation := none }.requestSettingsConfirmation finished
    | some (.scheduled _ _) => s
    | none => s
  | false, .failed => s

/-- What a scan makes of the repair budget. -/
def repaired (s : Schedule) (trigger : ReconcileTrigger) (outcome : ScanOutcome) (finished : Nat) : Schedule :=
  let s := if trigger = .repairRetry ∨ trigger = .settingsConfirmation then s else { s with retryCount := 0 }
  if outcome.needsRepair ∧ s.retryCount < fastRetryLimit then
    { s with retryCount := s.retryCount + 1, retryDue := some (finished + fastRetryDelay) }
  else if outcome.needsRepair = false then { s with retryCount := 0 }
  else s

def scanFinished (s : Schedule) (trigger : ReconcileTrigger) (outcome : ScanOutcome) (clock : ScanClock) : Schedule :=
  let s := { s with retryDue := none }.settled trigger outcome clock.finished
  { s with recoveryDue := clock.started + recoveryScanPeriod }.repaired trigger outcome clock.finished

/-- When the confirmation is due, while it is not left to the recovery scan. -/
def confirmationDue (s : Schedule) : Option Nat :=
  match s.confirmation with
  | some (.scheduled due _) => some due
  | some .awaitingRecovery => none
  | none => none

inductive Event where
  | scan (trigger : ReconcileTrigger) (outcome : ScanOutcome) (clock : ScanClock)
  | request (now : Nat)

def take (s : Schedule) : Event → Schedule
  | .scan trigger outcome clock => s.scanFinished trigger outcome clock
  | .request now => s.requestSettingsConfirmation now

/-- One event; none is refused. -/
def step (s : Schedule) (event : Event) : Option Schedule := some (s.take event)

/-- A scan that confirms settings. -/
def Confirms (s : Schedule) : Event → Prop
  | .scan trigger _ _ => s.confirmsSettings trigger = true
  | .request _ => False

/-- A scan that confirms settings delivers its snapshot. -/
def Delivers (s : Schedule) : Event → Prop
  | .scan trigger (.snapshot _) _ => s.confirmsSettings trigger = true
  | .scan _ .failed _ => False
  | .request _ => False

def Event.InRow : Event → Prop
  | .scan trigger outcome _ => outcome.RowOf trigger
  | .request _ => True

/-- When an event is over. -/
def Event.moment : Event → Nat
  | .scan _ _ clock => clock.finished
  | .request now => now

/-- A scan schedules a retry for `due`. -/
def SchedulesRetry (s : Schedule) (due : Nat) : Event → Prop
  | .scan trigger outcome clock => (s.scanFinished trigger outcome clock).retryDue = some due
  | .request _ => False

/-- An event schedules the confirmation for `due`, or again for it after a scan that could have confirmed. -/
def SchedulesConfirmation (s : Schedule) (due : Nat) (event : Event) : Prop :=
  (s.take event).confirmationDue = some due ∧ (s.confirmationDue = some due → s.Confirms event)

/-- How many retries the scans of a row schedule. -/
def retriesScheduled : Schedule → List Event → Nat
  | _, [] => 0
  | s, .scan trigger outcome clock :: events =>
    let after := s.scanFinished trigger outcome clock
    (if after.retryDue.isSome then 1 else 0) + after.retriesScheduled events
  | s, .request now :: events => (s.requestSettingsConfirmation now).retriesScheduled events

/-! ## One scan -/

section Parts

variable (s : Schedule) (trigger : ReconcileTrigger) (outcome : ScanOutcome) (finished : Nat)

theorem request_cases (now : Nat) :
    (s.confirmation.isSome ∧ s.requestSettingsConfirmation now = s) ∨
      (s.confirmation = none ∧ s.requestSettingsConfirmation now =
        { s with confirmation := some (.scheduled (now + fastRetryDelay) 0) }) := by
  unfold requestSettingsConfirmation
  cases s.confirmation with
  | none => exact .inr ⟨rfl, rfl⟩
  | some confirmation => exact .inl ⟨rfl, rfl⟩

/-- **What a scan makes of the request**, case by case. -/
theorem settled_cases :
    (∃ needsRepair, s.confirmsSettings trigger = true ∧ outcome = .snapshot needsRepair ∧
        s.settled trigger outcome finished = { s with confirmation := none }) ∨
      ((s.confirmsSettings trigger = true → s.confirmationDue = none) ∧ s.settled trigger outcome finished = s) ∨
      (∃ due failures, s.confirmsSettings trigger = true ∧ s.confirmation = some (.scheduled due failures) ∧
        s.settled trigger outcome finished =
          { s with confirmation := some (.scheduled (finished + fastRetryDelay) (failures + 1)) }) ∨
      (∃ due failures, s.confirmsSettings trigger = true ∧ s.confirmation = some (.scheduled due failures) ∧
        s.settled trigger outcome finished = { s with confirmation := some .awaitingRecovery }) ∨
      (s.confirmsSettings trigger = false ∧ s.confirmation = some .awaitingRecovery ∧
        s.settled trigger outcome finished =
          { s with confirmation := some (.scheduled (finished + fastRetryDelay) 0) }) := by
  unfold settled confirmationDue
  cases hconfirms : s.confirmsSettings trigger with
  | true =>
    cases outcome with
    | snapshot needsRepair => exact .inl ⟨needsRepair, rfl, rfl, rfl⟩
    | failed =>
      cases hconfirmation : s.confirmation with
      | none => exact .inr (.inl ⟨fun _ => rfl, rfl⟩)
      | some confirmation =>
        cases confirmation with
        | awaitingRecovery => exact .inr (.inl ⟨fun _ => rfl, rfl⟩)
        | scheduled due failures =>
          dsimp only
          by_cases hlimit : failures + 1 < fastRetryLimit
          · rw [if_pos hlimit]
            exact .inr (.inr (.inl ⟨due, failures, rfl, rfl, rfl⟩))
          · rw [if_neg hlimit]
            exact .inr (.inr (.inr (.inl ⟨due, failures, rfl, rfl, rfl⟩)))
  | false =>
    have hother : false = true → s.confirmationDue = none := fun h => absurd h Bool.false_ne_true
    cases outcome with
    | failed => exact .inr (.inl ⟨hother, rfl⟩)
    | snapshot needsRepair =>
      cases hconfirmation : s.confirmation with
      | none => exact .inr (.inl ⟨fun _ => rfl, rfl⟩)
      | some confirmation =>
        cases confirmation with
        | scheduled due failures => exact .inr (.inl ⟨fun h => absurd h Bool.false_ne_true, rfl⟩)
        | awaitingRecovery => exact .inr (.inr (.inr (.inr ⟨rfl, rfl, rfl⟩)))

/-- **What a scan makes of the repair budget**, case by case; in a row nothing renews the count. -/
theorem repaired_cases :
    ∃ count, (outcome.RowOf trigger → count = s.retryCount) ∧
      ((count < fastRetryLimit ∧ s.repaired trigger outcome finished =
          { s with retryCount := count + 1, retryDue := some (finished + fastRetryDelay) }) ∨
        s.repaired trigger outcome finished = { s with retryCount := count }) := by
  have hbudget : ∃ count, (outcome.RowOf trigger → count = s.retryCount) ∧
      (if trigger = .repairRetry ∨ trigger = .settingsConfirmation then s else { s with retryCount := 0 }) =
        { s with retryCount := count } := by
    by_cases hrow : trigger = .repairRetry ∨ trigger = .settingsConfirmation
    · rw [if_pos hrow]
      exact ⟨s.retryCount, fun _ => rfl, rfl⟩
    · rw [if_neg hrow]
      exact ⟨0, fun h => absurd h.1 hrow, rfl⟩
  obtain ⟨count, hcount, hbudget⟩ := hbudget
  unfold repaired
  rw [hbudget]
  dsimp only
  by_cases hretry : outcome.needsRepair ∧ count < fastRetryLimit
  · rw [if_pos hretry]
    exact ⟨count, hcount, .inl ⟨hretry.2, rfl⟩⟩
  · rw [if_neg hretry]
    by_cases hhealthy : outcome.needsRepair = false
    · rw [if_pos hhealthy]
      exact ⟨0, fun h => absurd (hhealthy.symm.trans h.2) Bool.false_ne_true, .inr rfl⟩
    · rw [if_neg hhealthy]
      exact ⟨count, hcount, .inr rfl⟩

/-! The parts of a schedule that a scan leaves to the other part. -/

theorem confirmation_repaired : (s.repaired trigger outcome finished).confirmation = s.confirmation := by
  obtain ⟨count, -, ⟨-, h⟩ | h⟩ := s.repaired_cases trigger outcome finished <;> rw [h]

theorem retryCount_settled : (s.settled trigger outcome finished).retryCount = s.retryCount := by
  rcases s.settled_cases trigger outcome finished with
    ⟨-, -, -, h⟩ | ⟨-, h⟩ | ⟨_, _, -, -, h⟩ | ⟨_, _, -, -, h⟩ | ⟨-, -, h⟩ <;> rw [h]

theorem retryDue_settled : (s.settled trigger outcome finished).retryDue = s.retryDue := by
  rcases s.settled_cases trigger outcome finished with
    ⟨-, -, -, h⟩ | ⟨-, h⟩ | ⟨_, _, -, -, h⟩ | ⟨_, _, -, -, h⟩ | ⟨-, -, h⟩ <;> rw [h]

end Parts

section Scan

variable (s : Schedule) (trigger : ReconcileTrigger) (outcome : ScanOutcome) (clock : ScanClock)

theorem confirmation_scanFinished : (s.scanFinished trigger outcome clock).confirmation =
    ({ s with retryDue := none }.settled trigger outcome clock.finished).confirmation := by
  unfold scanFinished
  dsimp only
  rw [confirmation_repaired]

/-- **A retry is due the delay after the scan that scheduled it**, and in a row each one is counted. -/
theorem retryDue_scanFinished :
    ((s.scanFinished trigger outcome clock).retryDue = some (clock.finished + fastRetryDelay) ∧
        (outcome.RowOf trigger → s.retryCount < fastRetryLimit ∧
          (s.scanFinished trigger outcome clock).retryCount = s.retryCount + 1)) ∨
      ((s.scanFinished trigger outcome clock).retryDue = none ∧
        (outcome.RowOf trigger → (s.scanFinished trigger outcome clock).retryCount = s.retryCount)) := by
  unfold scanFinished
  dsimp only
  generalize hsettled : ({ s with retryDue := none } : Schedule).settled trigger outcome clock.finished = t
  have hcount : t.retryCount = s.retryCount := by
    rw [← hsettled, retryCount_settled]
  have hdue : t.retryDue = none := by
    rw [← hsettled, retryDue_settled]
  obtain ⟨count, hsame, ⟨hlimit, h⟩ | h⟩ :=
    repaired_cases { t with recoveryDue := clock.started + recoveryScanPeriod } trigger outcome clock.finished
  · rw [h]
    refine .inl ⟨rfl, fun hrow => ?_⟩
    obtain rfl := (hsame hrow).trans hcount
    exact ⟨hlimit, rfl⟩
  · rw [h]
    exact .inr ⟨hdue, fun hrow => (hsame hrow).trans hcount⟩

end Scan

/-! ## Whole runs -/

variable {s : Schedule} {event : Event} {due : Nat}

/-- A request stays until a scan that confirms settings delivers its snapshot. -/
theorem isSome_confirmation_step {t : Schedule} (hs : s.confirmation.isSome) (hkept : ¬s.Delivers event)
    (h : s.step event = some t) : t.confirmation.isSome := by
  cases h
  cases event with
  | request now =>
    rcases s.request_cases now with ⟨-, h⟩ | ⟨-, h⟩
    · exact (congrArg (fun s => s.confirmation.isSome) h).trans hs
    · exact congrArg (fun s => s.confirmation.isSome) h
  | scan trigger outcome clock =>
    rw [take, confirmation_scanFinished]
    rcases settled_cases { s with retryDue := none } trigger outcome clock.finished with
      ⟨needsRepair, hconfirms, rfl, -⟩ | ⟨-, h⟩ | ⟨_, _, -, -, h⟩ | ⟨_, _, -, -, h⟩ | ⟨-, -, h⟩
    · exact absurd hconfirms hkept
    · rw [h]
      exact hs
    all_goals
      rw [h]
      rfl

/-- A delivered snapshot retires the request. -/
theorem confirmation_delivered (h : s.Delivers event) : (s.take event).confirmation = none := by
  cases event with
  | request now => cases h
  | scan trigger outcome clock =>
    cases outcome with
    | failed => cases h
    | snapshot needsRepair =>
      have hconfirms : ({ s with retryDue := none } : Schedule).confirmsSettings trigger = true := h
      rw [take, confirmation_scanFinished]
      unfold settled
      rw [hconfirms]

/-- Requests and other scans leave a deadline where it is. -/
theorem confirmationDue_step {t : Schedule} (hs : s.confirmationDue = some due) (hother : ¬s.Confirms event)
    (h : s.step event = some t) : t.confirmationDue = some due := by
  cases h
  cases event with
  | request now =>
    rcases s.request_cases now with ⟨-, h⟩ | ⟨hnone, -⟩
    · rw [take, h]
      exact hs
    · unfold confirmationDue at hs
      rw [hnone] at hs
      cases hs
  | scan trigger outcome clock =>
    unfold confirmationDue
    rw [take, confirmation_scanFinished]
    rcases settled_cases { s with retryDue := none } trigger outcome clock.finished with
      ⟨_, hconfirms, -, -⟩ | ⟨-, h⟩ | ⟨_, _, hconfirms, -, -⟩ | ⟨_, _, hconfirms, -, -⟩ | ⟨-, hawaiting, -⟩
    · exact absurd hconfirms hother
    · rw [h]
      exact hs
    · exact absurd hconfirms hother
    · exact absurd hconfirms hother
    · unfold confirmationDue at hs
      rw [show s.confirmation = some .awaitingRecovery from hawaiting] at hs
      cases hs

/-- **A confirmation is due the delay after the event that scheduled it.** -/
theorem confirmationDue_of_schedules (h : s.SchedulesConfirmation due event) : due = event.moment + fastRetryDelay := by
  obtain ⟨hafter, hagain⟩ := h
  cases event with
  | request now =>
    rcases s.request_cases now with ⟨-, h⟩ | ⟨-, h⟩
    · rw [take, h] at hafter
      exact (hagain hafter).elim
    · rw [take, h] at hafter
      exact (Option.some.inj hafter).symm
  | scan trigger outcome clock =>
    unfold confirmationDue at hafter hagain
    rw [take, confirmation_scanFinished] at hafter
    rcases settled_cases { s with retryDue := none } trigger outcome clock.finished with
      ⟨_, -, -, h⟩ | ⟨hsame, h⟩ | ⟨_, _, -, -, h⟩ | ⟨_, _, -, -, h⟩ | ⟨-, -, h⟩ <;> rw [h] at hafter
    · cases hafter
    · cases (hsame (hagain hafter)).symm.trans hafter
    · exact (Option.some.inj hafter).symm
    · cases hafter
    · exact (Option.some.inj hafter).symm

theorem moment_of_schedulesRetry (h : s.SchedulesRetry due event) :
    due = event.moment + fastRetryDelay := by
  cases event with
  | request now => exact h.elim
  | scan trigger outcome clock =>
    rcases s.retryDue_scanFinished trigger outcome clock with ⟨hdue, -⟩ | ⟨hnone, -⟩
    · exact Option.some.inj (h.symm.trans hdue)
    · cases hnone.symm.trans h

/-- In a row each scheduled retry costs one of the budget. -/
theorem retriesScheduled_le {events : List Event} (hrow : ∀ event ∈ events, event.InRow) (s : Schedule) :
    s.retryCount + s.retriesScheduled events ≤ max s.retryCount fastRetryLimit := by
  induction events generalizing s with
  | nil => exact Nat.le_max_left _ _
  | cons event events ih =>
    have hrest := ih fun event h => hrow event (List.mem_cons_of_mem _ h)
    cases event with
    | request now =>
      have hcount : (s.requestSettingsConfirmation now).retryCount = s.retryCount := by
        rcases s.request_cases now with ⟨-, h⟩ | ⟨-, h⟩ <;> rw [h]
      have hbound := hrest (s.requestSettingsConfirmation now)
      rw [hcount] at hbound
      exact hbound
    | scan trigger outcome clock =>
      have hbound := hrest (s.scanFinished trigger outcome clock)
      have hin : outcome.RowOf trigger := hrow _ List.mem_cons_self
      unfold retriesScheduled
      dsimp only
      rcases s.retryDue_scanFinished trigger outcome clock with ⟨hdue, hcount⟩ | ⟨hdue, hcount⟩
      · obtain ⟨hlimit, hcount⟩ := hcount hin
        rw [hdue, Option.isSome_some, if_pos rfl]
        omega
      · rw [hdue, Option.isSome_none, if_neg Bool.false_ne_true, Nat.zero_add]
        rw [hcount hin] at hbound
        exact hbound

/-- The schedule after the events of a run. -/
def run (s : Schedule) (events : List Event) : Schedule := events.foldl take s

theorem run_step (events : List Event) (s : Schedule) : Lib.run step s events = some (s.run events) := by
  induction events generalizing s with
  | nil => rfl
  | cons event events ih => exact ih (s.take event)

theorem run_concat (s : Schedule) (events : List Event) (event : Event) :
    s.run (events ++ [event]) = (s.run events).take event := by
  unfold run
  rw [List.foldl_append, List.foldl_cons, List.foldl_nil]

theorem retryDue_take (h : (s.take event).retryDue = some due) :
    s.retryDue = some due ∨ s.SchedulesRetry due event := by
  cases event with
  | scan trigger outcome clock => exact .inr h
  | request now =>
    have hsame : (s.requestSettingsConfirmation now).retryDue = s.retryDue := by
      rcases s.request_cases now with ⟨-, h⟩ | ⟨-, h⟩ <;> rw [h]
    exact .inl (hsame.symm.trans h)

theorem confirmationDue_take (h : (s.take event).confirmationDue = some due) :
    s.confirmationDue = some due ∨ s.SchedulesConfirmation due event := by
  by_cases hbefore : s.confirmationDue = some due
  · exact .inl hbefore
  · exact .inr ⟨h, fun h => absurd h hbefore⟩

/-- **Every deadline was scheduled by an event of the run.** -/
theorem somewhere_scheduled (start due : Nat) (events : List Event) :
    (((new start).run events).retryDue = some due →
        Lib.Somewhere (fun before event => ((new start).run before).SchedulesRetry due event) events) ∧
      (((new start).run events).confirmationDue = some due →
        Lib.Somewhere (fun before event => ((new start).run before).SchedulesConfirmation due event) events) := by
  induction events using List.reverseRecOn with
  | nil => refine ⟨fun h => ?_, fun h => ?_⟩ <;> cases h
  | append_singleton events event ih =>
    rw [run_concat, Lib.somewhere_concat, Lib.somewhere_concat]
    constructor
    · intro h
      rcases retryDue_take h with h | h
      · exact .inl (ih.1 h)
      · exact .inr h
    · intro h
      rcases confirmationDue_take h with h | h
      · exact .inl (ih.2 h)
      · exact .inr h

/-- The next deadline is the recovery scan's when the others are not pending, and always one of the three. -/
theorem nextDeadline_cases (s : Schedule) :
    (s.retryDue = none → s.confirmationDue = none → s.nextDeadline = (s.recoveryDue, .recoveryScan)) ∧
      (s.nextDeadline = (s.recoveryDue, .recoveryScan) ∨
        (∃ due, s.retryDue = some due ∧ s.nextDeadline = (due, .repairRetry)) ∨
        ∃ due, s.confirmationDue = some due ∧ s.nextDeadline = (due, .settingsConfirmation)) := by
  unfold nextDeadline confirmationDue
  cases s.confirmation with
  | none =>
    cases s.retryDue with
    | none => exact ⟨fun _ _ => rfl, .inl rfl⟩
    | some due => exact ⟨fun h => (by cases h), .inr (.inl ⟨due, rfl, rfl⟩)⟩
  | some confirmation =>
    cases confirmation with
    | awaitingRecovery =>
      cases s.retryDue with
      | none => exact ⟨fun _ _ => rfl, .inl rfl⟩
      | some due => exact ⟨fun h => (by cases h), .inr (.inl ⟨due, rfl, rfl⟩)⟩
    | scheduled due failures =>
      refine ⟨fun _ h => (by cases h), ?_⟩
      cases s.retryDue with
      | none =>
        by_cases hfirst : due ≤ s.recoveryDue
        · exact .inr (.inr ⟨due, rfl, if_pos hfirst⟩)
        · exact .inl (if_neg hfirst)
      | some retry =>
        by_cases hfirst : due ≤ retry
        · exact .inr (.inr ⟨due, rfl, if_pos hfirst⟩)
        · exact .inr (.inl ⟨retry, rfl, if_neg hfirst⟩)

/-- **The schedule keeps its requests and its bounds**: after any run, whatever comes next. -/
theorem schedule_keeps (start : Nat) (before after : List Event) :
    let s := (new start).run before
    (∀ now, (s.requestSettingsConfirmation now).confirmation.isSome) ∧
      (s.confirmation.isSome → Lib.Along step (fun s event => ¬s.Delivers event) s after →
        (s.run after).confirmation.isSome) ∧
      (∀ event, s.Delivers event → (s.take event).confirmation = none) ∧
      (∀ due, s.confirmationDue = some due → Lib.Along step (fun s event => ¬s.Confirms event) s after →
        (s.run after).confirmationDue = some due) ∧
      ((∀ event ∈ after, event.InRow) → s.retriesScheduled after ≤ fastRetryLimit) ∧
      (∀ event due, s.SchedulesRetry due event ∨ s.SchedulesConfirmation due event →
        event.moment + fastRetryDelay ≤ due) ∧
      (∀ due, s.retryDue = some due →
        Lib.Somewhere (fun before event => ((new start).run before).SchedulesRetry due event) before) ∧
      (∀ due, s.confirmationDue = some due →
        Lib.Somewhere (fun before event => ((new start).run before).SchedulesConfirmation due event) before) ∧
      (s.retryDue = none → s.confirmationDue = none → s.nextDeadline = (s.recoveryDue, .recoveryScan)) ∧
      (s.nextDeadline = (s.recoveryDue, .recoveryScan) ∨
        (∃ due, s.retryDue = some due ∧ s.nextDeadline = (due, .repairRetry)) ∨
        ∃ due, s.confirmationDue = some due ∧ s.nextDeadline = (due, .settingsConfirmation)) := by
  intro s
  refine ⟨fun now => ?_, fun hs hkept => ?_, fun _ => confirmation_delivered, fun due hs hother => ?_, fun hrow => ?_, ?_,
    fun due => ?_, fun due => ?_, nextDeadline_cases s⟩
  · rcases s.request_cases now with ⟨hsome, h⟩ | ⟨-, h⟩
    · rw [h]
      exact hsome
    · rw [h]
      rfl
  · exact Lib.along_inv (fun s => s.confirmation.isSome) _ (fun _ _ _ hs hkept h => isSome_confirmation_step hs hkept h)
      after s _ hs hkept (run_step after s)
  · exact Lib.along_inv (fun s => s.confirmationDue = some due) _
      (fun _ _ _ hs hother h => confirmationDue_step hs hother h) after s _ hs hother (run_step after s)
  · have hbound := retriesScheduled_le hrow s
    omega
  · rintro event due (h | h)
    · exact Nat.le_of_eq (moment_of_schedulesRetry h).symm
    · exact Nat.le_of_eq (confirmationDue_of_schedules h).symm
  · exact (somewhere_scheduled start due before).1
  · exact (somewhere_scheduled start due before).2

end Schedule

end Inventory
end OpenLogi
