import OpenLogi.Desktop.LightBatches
/-!
# LightReconcile — what a chain leaves, and what an edit adds to it

The pending request is told by its chain: `Chained`.  Reconciling a settled chain leaves what the run tells if and only
if the chain finds it reconcilable; commands handed over, taken or refused, keep a chain that goes on.
-/
namespace OpenLogi
namespace Desktop
namespace LightEdits

open Lights (LightCommand)

/-! ## What reconciling leaves -/

namespace AppState

/-- The light with another pending request. -/
def holding (s : AppState) (pending : Option PendingLightCommand) : AppState :=
  { s with light := { s.light with pending } }

/-- Commands more in the log. -/
def sending (s : AppState) (takes : Option Nat) (sent : List SentCommand) : AppState :=
  { s with ipc := ⟨takes, s.ipc.sent ++ sent⟩ }

variable (s : AppState) (requestId : Nat) (p : PendingLightCommand)

theorem finish_frame :
    (s.finishLightCommand requestId p).ipc = s.ipc ∧ (s.finishLightCommand requestId p).record = s.record ∧
      (s.finishLightCommand requestId p).light.pending = s.light.pending := by
  unfold finishLightCommand
  cases p.firstFailure with
  | none => cases p.settings <;> cases p.persistentKey <;> exact ⟨rfl, rfl, rfl⟩
  | some error =>
    dsimp only
    split
    · cases p.manualOverrideRollback <;> exact ⟨rfl, rfl, rfl⟩
    · split
      · cases p.persistentKey <;> exact ⟨rfl, rfl, rfl⟩
      · cases p.persistentKey <;> cases p.manualOverrideRollback <;> exact ⟨rfl, rfl, rfl⟩

/-- The override put aside is restored where some command failed and none set the power. -/
theorem finish_override :
    (s.finishLightCommand requestId p).light.manualOverride =
      if p.firstFailure.isSome && !p.allSuccessful.any isPower
      then p.manualOverrideRollback.elim s.light.manualOverride ManualOverrideRollback.previous
      else s.light.manualOverride := by
  unfold finishLightCommand
  cases p.firstFailure with
  | none => cases p.settings <;> cases p.persistentKey <;> rfl
  | some error =>
    dsimp only
    rw [Option.isSome_some, Bool.true_and]
    cases hcommands : p.allSuccessful with
    | nil => cases p.manualOverrideRollback <;> rfl
    | cons command commands =>
      cases hpower : (command :: commands).any isPower <;> cases p.persistentKey <;>
        cases p.manualOverrideRollback <;> rfl

/-- What is kept, and that a persistent light keeps nothing volatile. -/
theorem finish_kept (hsettings : p.settings.isSome = true) (hprevious : p.persistentKey.isSome = true →
      p.previousVolatile = none) :
    (s.finishLightCommand requestId p).lightFor =
        (if p.firstFailure.isSome then
          if p.allSuccessful.isEmpty then (p.previousVolatile.or s.config).getD .default
          else p.allSuccessful.foldl applyLightCommand p.rollbackSettings
        else if p.persistentKey.isSome then p.settings.getD .default else s.lightFor) ∧
      (p.persistentKey.isSome = true → (s.finishLightCommand requestId p).light.volatileSettings = none) := by
  obtain ⟨settings, hsettings⟩ := Option.isSome_iff_exists.1 hsettings
  unfold finishLightCommand
  rw [hsettings]
  cases p.firstFailure with
  | none => cases p.persistentKey <;> exact ⟨rfl, fun h => by first | rfl | cases h⟩
  | some error =>
    dsimp only
    cases hcommands : p.allSuccessful with
    | nil =>
      refine ⟨?_, fun hkey => ?_⟩
      · cases p.manualOverrideRollback <;> rfl
      · rw [← hprevious hkey]
        cases p.manualOverrideRollback <;> rfl
    | cons command commands =>
      cases hpower : (command :: commands).any isPower <;> cases p.persistentKey <;>
        cases p.manualOverrideRollback <;> exact ⟨rfl, fun h => by first | rfl | cases h⟩

end AppState

/-! ## The invariant -/

/-- The pending request, told by the chain. -/
structure Chained (s : Sys) (p : PendingLightCommand) : Prop where
  persistentKey : p.persistentKey = s.app.record.persistentConfigKey
  settings : p.settings.isSome = true
  rollback : p.rollbackSettings = s.told.before
  previous : s.app.record.persistent = true → p.previousVolatile = none
  undo : s.app.record.persistent = false → (p.previousVolatile.or s.app.config).getD .default = s.told.before
  shown : s.app.record.persistent = false → s.app.light.volatileSettings = some s.told.newest
  tried : p.manualOverrideRollback = none → s.told.tried = []
  batches : BatchesOf p.batches s.chain
  ids : (p.batches.map LightBatch.requestId).Pairwise (· < ·)
  newestId : p.requestId ≤ s.app.lights.nextRequestId

structure Inv (s : Sys) : Prop where
  idle : s.app.light.pending = none → s.app.isOutstanding = false ∧
    (s.app.record.persistent = true → s.app.light.volatileSettings = none) ∧ s.told.tried = []
  chained : ∀ p, s.app.light.pending = some p → Chained s p ∧ s.chain.any SentCommand.isOutstanding = true
  before : (s.app.ipc.sent.take s.told.first).any SentCommand.isOutstanding = false
  first : s.told.first ≤ s.app.ipc.sent.length
  own : s.told.first ≤ s.told.own

theorem isSome_persistentConfigKey (record : DeviceRecord) :
    record.persistentConfigKey.isSome = record.persistent := by
  unfold DeviceRecord.persistentConfigKey
  cases record.persistent <;> rfl

theorem isOutstanding_eq_chain {s : Sys}
    (h : (s.app.ipc.sent.take s.told.first).any SentCommand.isOutstanding = false) :
    s.app.isOutstanding = s.chain.any SentCommand.isOutstanding := by
  rw [AppState.isOutstanding, ← List.take_append_drop s.told.first s.app.ipc.sent, List.any_append, h, Bool.false_or]
  rfl

namespace Told

variable (t : Told) (app : AppState)

/-- Closing a chain changes only what is told of overrides. -/
theorem closed_frame : (t.closed app).before = t.before ∧ (t.closed app).first = t.first ∧
    (t.closed app).newest = t.newest ∧ (t.closed app).own = t.own := by
  unfold closed
  dsimp only
  split
  · exact ⟨rfl, rfl, rfl, rfl⟩
  · split <;> exact ⟨rfl, rfl, rfl, rfl⟩

theorem closed_of_outstanding (h : app.isOutstanding = true) : t.closed app = t := by
  unfold closed
  rw [if_pos h]

end Told

/-! ## The last result -/

/-- The override that a settled chain leaves. -/
theorem override_finished {t : Told} {failed power : Bool} {before after : Option Bool}
    {rollback : Option ManualOverrideRollback} (htried : rollback = none → t.tried = [])
    (hbefore : ∀ enabled, before = some enabled → enabled ∈ t.chosen ∨ enabled ∈ t.tried)
    (hafter : after = if failed && !power then rollback.elim before ManualOverrideRollback.previous else before)
    {t' : Told} (ht' : t' = if failed && !power then { t with tried := [] }
      else { t with chosen := t.tried ++ t.chosen, tried := [] }) :
    (∀ enabled, after = some enabled → enabled ∈ t'.chosen ∨ enabled ∈ t'.tried) ↔
      (failed = true → power = false → ∀ enabled, rollback = some ⟨some enabled⟩ → enabled ∈ t.chosen) := by
  subst hafter ht'
  cases hundone : failed && !power with
  | false =>
    refine iff_of_true (fun enabled henabled => Or.inl ?_) fun hfailed hpower => ?_
    · exact List.mem_append.2 (hbefore enabled henabled).symm
    · rw [hfailed, hpower] at hundone
      cases hundone
  | true =>
    obtain ⟨hfailed, hpower⟩ := Bool.and_eq_true_iff.1 hundone
    cases hrollback : rollback with
    | none =>
      refine iff_of_true (fun enabled henabled => ?_) fun _ _ _ hsome => by cases hsome
      rw [htried hrollback] at hbefore
      exact hbefore enabled henabled
    | some aside =>
      obtain ⟨previous⟩ := aside
      constructor
      · intro h _ _ enabled henabled
        have hprevious : previous = some enabled := congrArg ManualOverrideRollback.previous (Option.some.inj henabled)
        exact (h enabled hprevious).resolve_right List.not_mem_nil
      · intro h enabled henabled
        have hprevious : previous = some enabled := henabled
        exact Or.inl (h hfailed ((Bool.not_eq_true' power).mp hpower) enabled (by rw [hprevious]))

variable {p : PendingLightCommand}

/-- The newest edit's commands are the chain's last ones. -/
theorem succeeded_ne_nil {s : Sys} (hown : s.told.first ≤ s.told.own) (hne : s.own ≠ [])
    (hall : s.own.all SentCommand.hasSucceeded = true) : succeeded s.chain ≠ [] := by
  intro hnil
  obtain ⟨e, he⟩ := List.exists_mem_of_ne_nil _ hne
  have hsub : s.own <:+ s.chain := by
    unfold Sys.own Sys.chain
    rw [← Nat.add_sub_cancel' hown, ← List.drop_drop]
    exact List.drop_suffix ..
  have hcommand : e.command ∈ succeeded s.chain :=
    List.mem_map_of_mem (List.mem_filter.2 ⟨hsub.subset he, List.all_eq_true.1 hall e he⟩)
  rw [hnil] at hcommand
  exact absurd hcommand List.not_mem_nil

theorem Chained.persistent {s : Sys} (h : Chained s p) : p.persistentKey.isSome = s.app.record.persistent := by
  rw [h.persistentKey, isSome_persistentConfigKey]

/-- What a light is kept at once its chain settled. -/
theorem Chained.kept {s : Sys} (h : Chained s p) {app : AppState} {requestId : Nat}
    (happ : app = (s.app.holding none).finishLightCommand requestId p) :
    app.lightFor = (if s.chain.any SentCommand.hasFailed then
        if (succeeded s.chain).isEmpty then (p.previousVolatile.or s.app.config).getD .default
        else p.allSuccessful.foldl applyLightCommand p.rollbackSettings
      else if s.app.record.persistent then p.settings.getD .default else s.app.lightFor) ∧
    (s.app.record.persistent = true → app.light.volatileSettings = none) := by
  have hempty : p.allSuccessful.isEmpty = (succeeded s.chain).isEmpty := by
    have hperm : p.allSuccessful.Perm (succeeded s.chain) := h.batches.perm_succeeded
    rw [Bool.eq_iff_iff, List.isEmpty_iff, List.isEmpty_iff]
    exact ⟨fun hnil => (hnil ▸ hperm).nil_eq.symm, fun hnil => (hnil ▸ hperm).eq_nil⟩
  rw [happ, ← p.firstFailure_isSome h.batches, ← hempty, ← h.persistent]
  exact (s.app.holding none).finish_kept requestId p h.settings fun hkey => h.previous (h.persistent.symm.trans hkey)

/-- **Reconciling a settled chain** keeps what the run tells if and only if the chain finds it reconcilable. -/
theorem finished {s : Sys} (h : Chained s p) (hdone : s.chain.any SentCommand.isOutstanding = false)
    (hbefore : (s.app.ipc.sent.take s.told.first).any SentCommand.isOutstanding = false)
    (hfirst : s.told.first ≤ s.app.ipc.sent.length) (hown : s.told.first ≤ s.told.own)
    (hoverride : ∀ enabled, s.app.light.manualOverride = some enabled →
      enabled ∈ s.told.chosen ∨ enabled ∈ s.told.tried) {app : AppState} {requestId : Nat}
    (happ : app = (s.app.holding none).finishLightCommand requestId p) :
    Inv ⟨app, s.told.closed app⟩ ∧
      (Sys.SettlesToNewest ⟨app, s.told.closed app⟩ ↔ s.Reconciles p s.chain s.own) := by
  obtain ⟨hipc, hrecord, hpending⟩ :
      app.ipc = s.app.ipc ∧ app.record = s.app.record ∧ app.light.pending = none := by
    rw [happ]
    exact (s.app.holding none).finish_frame requestId p
  obtain ⟨hkept, hvolatile⟩ := h.kept happ
  have hprevious := h.previous
  have hrestored : app.light.manualOverride = if s.chain.any SentCommand.hasFailed && !(succeeded s.chain).any isPower
      then p.manualOverrideRollback.elim s.app.light.manualOverride ManualOverrideRollback.previous
      else s.app.light.manualOverride := by
    rw [happ, ← p.firstFailure_isSome h.batches, ← h.batches.perm_succeeded.any_eq]
    exact (s.app.holding none).finish_override requestId p
  have hsettled : app.isOutstanding = false := by
    rw [AppState.isOutstanding, hipc]
    exact (isOutstanding_eq_chain hbefore).trans hdone
  have htold : s.told.closed app =
      if s.chain.any SentCommand.hasFailed && !(succeeded s.chain).any isPower then { s.told with tried := [] }
      else { s.told with chosen := s.told.tried ++ s.told.chosen, tried := [] } := by
    unfold Told.closed
    rw [hsettled, hipc]
    rfl
  have htried : (s.told.closed app).tried = [] := by
    rw [htold]
    split <;> rfl
  obtain ⟨htoldBefore, htoldFirst, htoldNewest, htoldOwn⟩ := s.told.closed_frame app
  have hchain : Sys.chain ⟨app, s.told.closed app⟩ = s.chain := by
    unfold Sys.chain
    rw [htoldFirst, hipc]
  have howned : Sys.own ⟨app, s.told.closed app⟩ = s.own := by
    unfold Sys.own
    rw [htoldOwn, hipc]
  have hO := override_finished h.tried hoverride hrestored htold
  refine ⟨⟨fun _ => ⟨hsettled, ?_, htried⟩, fun q hq => ?_, ?_, ?_, ?_⟩, ?_⟩
  · rw [hrecord]
    exact hvolatile
  · rw [hpending] at hq
    cases hq
  · rw [hipc, htoldFirst]
    exact hbefore
  · rw [hipc, htoldFirst]
    exact hfirst
  · rw [htoldFirst, htoldOwn]
    exact hown
  · have hrest := succeeded_ne_nil hown
    constructor
    · rintro ⟨hkeeps, hright⟩
      obtain ⟨hnewest, hcarried, huncarried, hundone⟩ := hkeeps hsettled
      rw [hchain] at hnewest huncarried hundone
      rw [howned, htoldNewest] at huncarried
      rw [htoldNewest] at hnewest
      rw [htoldBefore] at hundone
      refine ⟨fun hf hkey => ?_, fun hf hnone hkey => ?_, fun hf hne hall => ?_, hO.1 hright⟩
      · have hlight := hnewest hf
        rw [hkept, hf, hkey] at hlight
        obtain ⟨settings, hsettings⟩ := Option.isSome_iff_exists.1 h.settings
        rw [hsettings] at hlight ⊢
        exact congrArg some hlight
      · have hlight := hundone hf hnone
        rw [hkept, hf, hnone, hprevious hkey] at hlight
        exact hlight
      · have hlight := huncarried hf hne hall
        rw [hkept, hf, if_pos rfl, if_neg (by simpa using hrest hne hall),
          (rest_foldl_applyLightCommand ..).1, (rest_foldl_applyLightCommand ..).2, h.rollback] at hlight
        exact hlight
    · rintro ⟨hnewest, hsaved, huncarried, haside⟩
      have hback : s.chain.any SentCommand.hasFailed = true → succeeded s.chain = [] →
          (p.previousVolatile.or s.app.config).getD .default = s.told.before := by
        intro hf hnone
        cases hkey : s.app.record.persistent with
        | true =>
          rw [hprevious hkey, Option.none_or]
          exact hsaved hf hnone hkey
        | false => exact h.undo hkey
      refine ⟨fun _ => ⟨fun hf => ?_, fun hf c => ?_, fun hf hne hall => ?_, fun hf hnone => ?_⟩, hO.2 haside⟩
      · rw [hchain] at hf
        rw [htoldNewest, hkept, hf, if_neg Bool.false_ne_true]
        cases hkey : s.app.record.persistent with
        | true =>
          rw [hnewest hf hkey]
          rfl
        | false =>
          rw [if_neg Bool.false_ne_true, AppState.lightFor, AppState.savedLightFor, h.shown hkey]
          rfl
      · rw [hchain] at hf ⊢
        rw [htoldBefore, hkept, hf, if_pos rfl]
        cases hnone : succeeded s.chain with
        | nil =>
          rw [List.isEmpty_nil, if_pos rfl, hback hf hnone]
          rfl
        | cons command commands =>
          rw [List.isEmpty_cons, if_neg Bool.false_ne_true, get_foldl_applyLightCommand, h.rollback, ← hnone]
          exact congrArg (Option.or · _) (h.batches.latest c)
      · rw [hchain] at hf
        rw [howned] at hne hall
        rw [htoldNewest, hkept, hf, if_pos rfl, if_neg (by simpa using hrest hne hall),
          (rest_foldl_applyLightCommand ..).1, (rest_foldl_applyLightCommand ..).2, h.rollback]
        exact huncarried hf hne hall
      · rw [hchain] at hf hnone
        rw [htoldBefore, hkept, hf, if_pos rfl, hnone, List.isEmpty_nil, if_pos rfl]
        exact hback hf hnone

/-! ## Sending -/

namespace AppState

variable {s : AppState} {p : PendingLightCommand}

theorem sending_sending (s : AppState) (takes takes' : Option Nat) (xs ys : List SentCommand) :
    (s.sending takes xs).sending takes' ys = s.sending takes' (xs ++ ys) := by
  unfold sending
  dsimp only
  rw [List.append_assoc]

theorem dispatch_taken (s : AppState) (htakes : s.ipc.takes ≠ some 0) (requestId : Nat) (command : LightCommand) :
    s.dispatch requestId command = s.sending (s.ipc.takes.map (· - 1)) [⟨requestId, command, none⟩] := by
  have hsend : s.sendIpc requestId command =
      (true, s.sending (s.ipc.takes.map (· - 1)) [⟨requestId, command, none⟩]) := by
    unfold sendIpc
    split
    · rename_i hgone
      exact absurd hgone htakes
    · rfl
  rw [dispatch, hsend, if_pos rfl]

theorem dispatch_gone (s : AppState) (htakes : s.ipc.takes = some 0) (requestId : Nat) (command : LightCommand) :
    s.dispatch requestId command =
      ((s.sending (some 0) [⟨requestId, command, some false⟩]).settleLightCommand requestId command
        (.error agentUnavailable)).2 := by
  have hsend : s.sendIpc requestId command = (false, s.sending (some 0) [⟨requestId, command, some false⟩]) := by
    unfold sendIpc sending
    split
    · rw [← htakes]
    · rename_i hother
      exact absurd htakes hother
  rw [dispatch, hsend, if_neg Bool.false_ne_true]

theorem settle_some (hp : s.light.pending = some p) {requestId : Nat} {command : LightCommand}
    {result : Except String Unit} {p' : PendingLightCommand}
    (hanswered : p.answered requestId command result = some p') :
    (s.settleLightCommand requestId command result).2 =
      if p'.isOutstanding then s.holding (some p') else (s.holding none).finishLightCommand requestId p' := by
  unfold settleLightCommand
  rw [hp, Option.bind_some, hanswered]
  dsimp only
  split <;> rfl

theorem settle_none (s : AppState) (hp : s.light.pending = none) (requestId : Nat) (command : LightCommand)
    (result : Except String Unit) : s.settleLightCommand requestId command result = (false, s) := by
  unfold settleLightCommand
  rw [hp]
  rfl

theorem settle_ipc (s : AppState) (requestId : Nat) (command : LightCommand) (result : Except String Unit) :
    (s.settleLightCommand requestId command result).2.ipc = s.ipc := by
  unfold settleLightCommand
  split
  · rfl
  · split
    · rfl
    · exact (finish_frame _ requestId _).1

/-- Every command handed over is logged. -/
theorem length_queue (s : AppState) (requestId : Nat) (command : LightCommand) :
    (s.queueLightCommand requestId command).ipc.sent.length = s.ipc.sent.length + 1 := by
  have hcount : (s.countLightCommand requestId).ipc = s.ipc := by
    unfold countLightCommand
    split
    · split <;> rfl
    · rfl
  have hlength : ∀ e : SentCommand, (s.ipc.sent ++ [e]).length = s.ipc.sent.length + 1 := fun _ => List.length_append
  rw [queueLightCommand]
  by_cases htakes : (s.countLightCommand requestId).ipc.takes = some 0
  · rw [dispatch_gone _ htakes, settle_ipc, sending, hcount]
    exact hlength _
  · rw [dispatch_taken _ htakes, sending, hcount]
    exact hlength _

/-- The request with a command more. -/
def counted (p : PendingLightCommand) : PendingLightCommand :=
  { p with toLightBatch := p.toLightBatch.counted }

theorem count_some (hp : s.light.pending = some p) :
    s.countLightCommand p.requestId =
      s.holding (some (counted p)) := by
  unfold countLightCommand
  rw [hp]
  exact if_pos rfl

theorem queue_taken (hp : s.light.pending = some p) (htakes : s.ipc.takes ≠ some 0) (command : LightCommand) :
    s.queueLightCommand p.requestId command =
      (s.holding (some (counted p))).sending (s.ipc.takes.map (· - 1)) [⟨p.requestId, command, none⟩] := by
  rw [queueLightCommand, count_some hp]
  exact dispatch_taken (s.holding (some (counted p))) htakes p.requestId command

/-- The request with a command refused. -/
def refused (p : PendingLightCommand) : PendingLightCommand :=
  { p with toLightBatch := { p.toLightBatch with failure := p.failure.or (some agentUnavailable) } }

/-- A refused command is settled at once. -/
theorem queue_refused (hp : s.light.pending = some p) (htakes : s.ipc.takes = some 0) (command : LightCommand) :
    s.queueLightCommand p.requestId command =
      if p.isOutstanding then
        (s.holding (some (refused p))).sending (some 0) [⟨p.requestId, command, some false⟩]
      else
        ((s.holding none).sending (some 0) [⟨p.requestId, command, some false⟩]).finishLightCommand p.requestId
          (refused p) := by
  have hanswered : (counted p).answered p.requestId command (.error agentUnavailable) = some (refused p) := if_pos rfl
  have hsame : (refused p).isOutstanding = p.isOutstanding := rfl
  rw [queueLightCommand, count_some hp]
  refine (dispatch_gone (s.holding (some (counted p))) htakes p.requestId command).trans
    ((settle_some (p := counted p) rfl hanswered).trans ?_)
  rw [hsame]
  rfl

/-- Commands as they are logged once the client thread is gone. -/
def refusedCommands (requestId : Nat) (commands : List LightCommand) : List SentCommand :=
  commands.map fun command => ⟨requestId, command, some false⟩

/-- Once the client thread is gone, nothing that is handed over is counted. -/
theorem queue_all_gone (requestId : Nat) : ∀ (commands : List LightCommand) {s : AppState},
    s.light.pending = none → s.ipc.takes = some 0 →
      commands.foldl (fun s command => s.queueLightCommand requestId command) s =
        s.sending (some 0) (refusedCommands requestId commands)
  | [], s, _, htakes => by
    rw [List.foldl_nil, refusedCommands, List.map_nil, sending, List.append_nil, ← htakes]
  | command :: commands, s, hp, htakes => by
    have hone : s.queueLightCommand requestId command =
        s.sending (some 0) [⟨requestId, command, some false⟩] := by
      have hcount : s.countLightCommand requestId = s := by
        unfold countLightCommand
        rw [hp]
      rw [queueLightCommand, hcount, dispatch_gone s htakes, settle_none (s.sending _ _) hp]
    rw [List.foldl_cons, hone, queue_all_gone requestId commands (s := s.sending _ _) hp rfl, sending_sending]
    rfl

theorem finish_ipc (requestId : Nat) (p : PendingLightCommand) (ipc : IpcCommands) :
    { s with ipc }.finishLightCommand requestId p = { s.finishLightCommand requestId p with ipc } := by
  unfold finishLightCommand
  cases p.firstFailure with
  | none => cases p.settings <;> cases p.persistentKey <;> rfl
  | some error =>
    dsimp only
    cases hcommands : p.allSuccessful with
    | nil => cases p.manualOverrideRollback <;> rfl
    | cons command commands =>
      cases hpower : (command :: commands).any isPower <;> cases p.persistentKey <;>
        cases p.manualOverrideRollback <;> rfl

theorem finish_sending (s : AppState) (requestId : Nat) (p : PendingLightCommand) (takes : Option Nat)
    (sent : List SentCommand) :
    (s.sending takes sent).finishLightCommand requestId p = (s.finishLightCommand requestId p).sending takes sent := by
  rw [sending, sending, finish_ipc, (s.finish_frame requestId p).1]

end AppState

/-- One more command of the newest batch. -/
theorem Chained.concat {s : Sys} (h : Chained s p) (hfirst : s.told.first ≤ s.app.ipc.sent.length) {b : LightBatch}
    {e : SentCommand}
    (hfresh : ∀ other ∈ s.chain, other.requestId = p.requestId → other.command.control ≠ e.command.control)
    (hid : e.requestId = p.requestId) (hb : b.requestId = p.requestId)
    (hpending : b.pending = p.pending + ([e].filter SentCommand.isOutstanding).length)
    (hsuccesses : b.successfulCommands = p.successfulCommands ++ succeeded [e])
    (hfailure : b.failure.isSome = (p.failure.isSome || e.hasFailed)) (takes : Option Nat) :
    Chained ⟨(s.app.holding (some { p with toLightBatch := b })).sending takes [e], s.told⟩
      { p with toLightBatch := b } where
  persistentKey := h.persistentKey
  settings := h.settings
  rollback := h.rollback
  previous := h.previous
  undo := h.undo
  shown := h.shown
  tried := h.tried
  batches := by
    obtain ⟨older, own, hchain, holder, hown⟩ := h.batches.last
    change BatchesOf (p.superseded ++ [b]) ((s.app.ipc.sent ++ [e]).drop s.told.first)
    rw [List.drop_append_of_le_length hfirst]
    change BatchesOf (p.superseded ++ [b]) (s.chain ++ [e])
    rw [hchain] at hfresh ⊢
    rw [List.append_assoc]
    refine holder.concat (hown.concat e (fun other hother => ?_) hid hb hpending hsuccesses hfailure)
    exact hfresh other (List.mem_append_right _ hother) (hown.ids other hother)
  ids := by
    have hsame : PendingLightCommand.batches { p with toLightBatch := b } = p.superseded ++ [b] := rfl
    have hids := h.ids
    rw [PendingLightCommand.batches, List.map_append, List.map_singleton] at hids
    rw [hsame, List.map_append, List.map_singleton, hb]
    exact hids
  newestId := by
    change b.requestId ≤ _
    rw [hb]
    exact h.newestId

/-- The chain goes on: its newest request is pending and some command outstanding. -/
structure Goes (told : Told) (app app' : AppState) (requestId : Nat) : Prop where
  pending : ∃ p, app'.light.pending = some p ∧ p.requestId = requestId ∧ Chained ⟨app', told⟩ p
  outstanding : (Sys.chain ⟨app', told⟩).any SentCommand.isOutstanding = true
  sent : app.ipc.sent <+: app'.ipc.sent
  override : app'.light.manualOverride = app.light.manualOverride

theorem goes_queue {told : Told} {app : AppState} {command : LightCommand} (h : Chained ⟨app, told⟩ p)
    (hp : app.light.pending = some p) (hfirst : told.first ≤ app.ipc.sent.length)
    (hfresh : ∀ other ∈ app.ipc.sent.drop told.first, other.requestId = p.requestId →
      other.command.control ≠ command.control)
    (hgoes : app.ipc.takes ≠ some 0 ∨ (Sys.chain ⟨app, told⟩).any SentCommand.isOutstanding = true) :
    Goes told app (app.queueLightCommand p.requestId command) p.requestId ∧
      ∃ outcome, (app.queueLightCommand p.requestId command).ipc.sent =
        app.ipc.sent ++ [⟨p.requestId, command, outcome⟩] := by
  by_cases htakes : app.ipc.takes = some 0
  · have hout := hgoes.resolve_left (fun hne => hne htakes)
    have hcond : p.isOutstanding = true := (p.isOutstanding_eq h.batches).trans hout
    have hnext : Chained ⟨(app.holding (some (AppState.refused p))).sending (some 0)
        [⟨p.requestId, command, some false⟩], told⟩ (AppState.refused p) := by
      refine h.concat hfirst (b := (AppState.refused p).toLightBatch) (e := ⟨p.requestId, command, some false⟩) hfresh
        rfl rfl rfl (List.append_nil _).symm ?_ (some 0)
      rw [AppState.refused, Option.isSome_or]
      rfl
    rw [AppState.queue_refused hp htakes, if_pos hcond]
    refine ⟨⟨⟨_, rfl, rfl, hnext⟩, ?_, List.prefix_append .., rfl⟩, some false, rfl⟩
    change ((app.ipc.sent ++ _).drop told.first).any SentCommand.isOutstanding = true
    rw [List.drop_append_of_le_length hfirst, List.any_append, Bool.or_eq_true]
    exact Or.inl hout
  · have hnext : Chained ⟨(app.holding (some (AppState.counted p))).sending (app.ipc.takes.map (· - 1))
        [⟨p.requestId, command, none⟩], told⟩ (AppState.counted p) :=
      h.concat hfirst (b := (AppState.counted p).toLightBatch) (e := ⟨p.requestId, command, none⟩) hfresh
        rfl rfl rfl (List.append_nil _).symm (Bool.or_false _).symm _
    rw [AppState.queue_taken hp htakes]
    refine ⟨⟨⟨_, rfl, rfl, hnext⟩, ?_, List.prefix_append .., rfl⟩, none, rfl⟩
    change ((app.ipc.sent ++ _).drop told.first).any SentCommand.isOutstanding = true
    rw [List.drop_append_of_le_length hfirst, List.any_append, Bool.or_eq_true]
    exact Or.inr rfl

/-- The rest of an edit's commands. -/
theorem goes_queue_all {told : Told} : ∀ (commands : List LightCommand) {app : AppState} {requestId : Nat},
    (∃ p, app.light.pending = some p ∧ p.requestId = requestId ∧ Chained ⟨app, told⟩ p) →
      (Sys.chain ⟨app, told⟩).any SentCommand.isOutstanding = true → told.first ≤ app.ipc.sent.length →
        (commands.map LightCommand.control).Nodup →
          (∀ command ∈ commands, ∀ other ∈ app.ipc.sent.drop told.first, other.requestId = requestId →
            other.command.control ≠ command.control) →
            Goes told app (commands.foldl (fun s command => s.queueLightCommand requestId command) app) requestId
  | [], _, _, hp, hout, _, _, _ => ⟨hp, hout, List.prefix_refl _, rfl⟩
  | command :: commands, app, requestId, ⟨p, hp, hid, h⟩, hout, hfirst, hnodup, hfresh => by
    subst hid
    rw [List.map_cons, List.nodup_cons] at hnodup
    obtain ⟨hone, outcome, hsent⟩ := goes_queue h hp hfirst (hfresh command List.mem_cons_self) (Or.inr hout)
    have hall := goes_queue_all commands hone.pending hone.outstanding (Nat.le_trans hfirst hone.sent.length_le)
      hnodup.2 fun other hother e he hid => by
        rw [hsent, List.drop_append_of_le_length hfirst] at he
        rcases List.mem_append.1 he with he | he
        · exact hfresh other (List.mem_cons_of_mem _ hother) e he hid
        · rw [List.mem_singleton.1 he]
          exact fun hsame => hnodup.1 (List.mem_map.2 ⟨other, hother, hsame.symm⟩)
    exact ⟨hall.pending, hall.outstanding, hone.sent.trans hall.sent, hall.override.trans hone.override⟩

/-! ## Edits -/

namespace AppState

/-- The request of a new edit, before its commands are counted. -/
def fresh (s : AppState) (light : LightSettings) (rollback : Option ManualOverrideRollback) : PendingLightCommand where
  requestId := s.lights.nextRequestId + 1
  pending := 0
  successfulCommands := []
  failure := none
  settings := some light
  persistentKey := s.record.persistentConfigKey
  rollbackSettings := (s.lightWriteRollback s.lightFor).1
  previousVolatile := (s.lightWriteRollback s.lightFor).2
  manualOverrideRollback := rollback
  superseded := s.light.pending.elim [] PendingLightCommand.batches

/-- The light that shows a new edit, its request begun. -/
def begun (s : AppState) (light : LightSettings) (override : Option Bool) (rollback : Option ManualOverrideRollback) :
    AppState :=
  { s with
    lights := { s.lights with nextRequestId := s.lights.nextRequestId + 1 }
    light := ⟨override, some light, some (s.fresh light rollback), some (s.lights.nextRequestId + 1, .pending)⟩ }

/-- Hand over the commands of a new edit. -/
def sendEdit (s : AppState) (light : LightSettings) (override : Option Bool)
    (rollback : Option ManualOverrideRollback) (commands : List LightCommand) : AppState :=
  commands.foldl (fun app command => app.queueLightCommand (s.lights.nextRequestId + 1) command)
    (s.begun light override rollback)

/-- An edit with every command refused, before that is reconciled. -/
def refusedEdit (s : AppState) (light : LightSettings) (override : Option Bool)
    (rollback : Option ManualOverrideRollback) (commands : List LightCommand) : AppState :=
  (s.begun light override rollback).sending (some 0) (refusedCommands (s.lights.nextRequestId + 1) commands)

theorem sendEdit_refused {s : AppState} (hp : s.light.pending = none) (htakes : s.ipc.takes = some 0)
    (light : LightSettings) (override : Option Bool) (rollback : Option ManualOverrideRollback) :
    ∀ {commands : List LightCommand}, commands ≠ [] →
      s.sendEdit light override rollback commands =
        ((s.refusedEdit light override rollback commands).holding none).finishLightCommand
          (s.lights.nextRequestId + 1) (refused (s.fresh light rollback))
  | [], hne => absurd rfl hne
  | command :: commands, _ => by
    have hdone : (s.fresh light rollback).isOutstanding = false := by
      unfold PendingLightCommand.isOutstanding fresh
      rw [hp]
      rfl
    have hone : (s.begun light override rollback).queueLightCommand (s.lights.nextRequestId + 1) command =
        (((s.begun light override rollback).holding none).sending (some 0)
          [⟨s.lights.nextRequestId + 1, command, some false⟩]).finishLightCommand (s.lights.nextRequestId + 1)
          (refused (s.fresh light rollback)) := by
      have hqueue :=
        queue_refused (s := s.begun light override rollback) (p := s.fresh light rollback) rfl htakes command
      rw [hdone, if_neg Bool.false_ne_true] at hqueue
      exact hqueue
    obtain ⟨hipc, -, hpending⟩ :=
      finish_frame (((s.begun light override rollback).holding none).sending (some 0)
        [⟨s.lights.nextRequestId + 1, command, some false⟩]) (s.lights.nextRequestId + 1)
        (refused (s.fresh light rollback))
    unfold sendEdit
    rw [List.foldl_cons, hone, queue_all_gone _ commands hpending (congrArg IpcCommands.takes hipc), ← finish_sending,
      sending_sending]
    rfl

/-- What an edit does that is kept without being sent. -/
structure Saved (s : AppState) (light : LightSettings) (override : Option Bool) (app : AppState) : Prop where
  pending : app.light.pending = s.light.pending
  ipc : app.ipc = s.ipc
  record : app.record = s.record
  nextId : s.lights.nextRequestId ≤ app.lights.nextRequestId
  override : app.light.manualOverride = override
  persistent : s.record.persistent = true → app.light.volatileSettings = none ∧ app.config = some light
  volatile : s.record.persistent = false → app.light.volatileSettings = some light ∧ app.config = s.config

variable (s : AppState) (light : LightSettings)

theorem saved_saveLight {shown : AppState} {override : Option Bool} (hpending : shown.light.pending = s.light.pending)
    (hipc : shown.ipc = s.ipc) (hrecord : shown.record = s.record)
    (hnext : s.lights.nextRequestId ≤ shown.lights.nextRequestId) (hconfig : shown.config = s.config)
    (hoverride : shown.light.manualOverride = override) : Saved s light override (shown.saveLight light) := by
  unfold saveLight DeviceRecord.persistentConfigKey
  cases hkey : shown.record.persistent with
  | true =>
    refine ⟨hpending, hipc, hrecord, hnext, hoverride, fun _ => ⟨rfl, rfl⟩, fun hnot => ?_⟩
    rw [← hrecord, hkey] at hnot
    cases hnot
  | false =>
    refine ⟨hpending, hipc, hrecord, hnext, hoverride, fun hnot => ?_, fun _ => ⟨rfl, hconfig⟩⟩
    rw [← hrecord, hkey] at hnot
    cases hnot

/-- **An ordinary edit** is sent or saved. -/
theorem commitLight_cases :
    (s.editCommands light ≠ [] ∧
      s.commitLight light = s.sendEdit light (if s.cameraModeChanged light then none else s.light.manualOverride)
        (s.lightModeOverrideRollback (s.cameraModeChanged light)) (s.editCommands light)) ∨
    Saved s light (if s.cameraModeChanged light then none else s.light.manualOverride) (s.commitLight light) := by
  unfold commitLight
  dsimp only
  by_cases hcommands : (s.editCommands light).isEmpty = true
  · rw [if_pos hcommands]
    exact Or.inr (saved_saveLight s light rfl rfl rfl (Nat.le_refl _) rfl rfl)
  · rw [if_neg hcommands]
    by_cases honline : (s.record.online && s.record.route.isSome) = true
    · rw [if_pos honline]
      refine Or.inl ⟨fun hnil => hcommands (by rw [hnil]; rfl), ?_⟩
      unfold sendEdit begun fresh supersedeLightCommand lightWriteRollback
      cases s.light.pending <;> rfl
    · rw [if_neg honline]
      exact Or.inr (saved_saveLight s light rfl rfl rfl (Nat.le_succ _) rfl rfl)

/-- **A manual power choice** under the camera policy is sent or saved. -/
theorem commitManualLightPower_cases (enabled : Bool) (hpolicy : s.cameraPolicyApplies s.lightFor = true) :
    s.commitManualLightPower enabled = s.sendEdit { s.lightFor with enabled } (some enabled)
        (s.lightModeOverrideRollback true) [.power enabled] ∨
      Saved s { s.lightFor with enabled } (some enabled) (s.commitManualLightPower enabled) := by
  unfold commitManualLightPower
  dsimp only
  rw [hpolicy, Bool.not_true, if_neg Bool.false_ne_true]
  by_cases honline : (s.record.online && s.record.route.isSome) = true
  · rw [if_pos honline]
    left
    unfold sendEdit begun fresh supersedeLightCommand lightWriteRollback
    rw [List.foldl_cons, List.foldl_nil, queueLightCommand, countLightCommand]
    dsimp only
    rw [if_pos rfl]
    cases s.light.pending <;> rfl
  · rw [if_neg honline]
    right
    have hsaved : Saved s { s.lightFor with enabled } (some enabled)
        (saveLight (beginLightCommand { s with light := { s.light with
          manualOverride := some enabled, volatileSettings := some { s.lightFor with enabled } } } none).2
          { s.lightFor with enabled }) :=
      saved_saveLight s _ rfl rfl rfl (Nat.le_succ _) rfl rfl
    cases hkey : s.record.persistentConfigKey with
    | some key => exact hsaved
    | none =>
      unfold saveLight at hsaved
      rw [show (beginLightCommand { s with light := { s.light with
          manualOverride := some enabled, volatileSettings := some { s.lightFor with enabled } } } none).2.record =
          s.record from rfl, hkey] at hsaved
      exact hsaved

theorem nodup_editCommands : ((s.editCommands light).map LightCommand.control).Nodup := by
  unfold editCommands
  cases s.record.lightCapabilities with
  | none => exact List.nodup_nil
  | some capabilities =>
    dsimp only [Option.elim]
    unfold commandsForLightSettings
    split <;> split <;> split <;> cases light.temperatureKelvin <;> simp [LightCommand.control]

end AppState

end LightEdits
end Desktop
end OpenLogi
