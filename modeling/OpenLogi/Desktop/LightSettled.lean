import OpenLogi.Desktop.LightReconcile
/-!
# LightSettled — when edits settle to the newest

In every run the edits of a light settle to the newest if and only if the last result of each chain finds it
reconcilable: the newest edit joined the chain, no setting that commands do not carry is lost with an older command, and
no override from before a camera transition was put aside.
-/
namespace OpenLogi
namespace Desktop
namespace LightEdits

open Lights (LightCommand)
open Lib (Along EveryState run)

/-! ## Edits -/

variable {s : Sys} {light : LightSettings} {override : Option Bool} {app : AppState} {t : Told}
  {rollback : Option ManualOverrideRollback} {commands : List LightCommand}

theorem chained_of_pending (hI : Inv s) : s.app.light.pending = none ↔ s.app.isOutstanding = false := by
  refine ⟨fun hnone => (hI.idle hnone).1, fun hidle => ?_⟩
  cases hp : s.app.light.pending with
  | none => rfl
  | some p =>
    have hout := (hI.chained p hp).2
    rw [← isOutstanding_eq_chain hI.before, hidle] at hout
    cases hout

/-- What is told after an edit, its choice of override apart. -/
structure Continues (s : Sys) (light : LightSettings) (t : Told) : Prop where
  before : t.before = (s.told.edited s.app light).before
  first : t.first = (s.told.edited s.app light).first
  newest : t.newest = light
  own : t.own = s.app.ipc.sent.length

theorem continues_edited (s : Sys) (light : LightSettings) : Continues s light (s.told.edited s.app light) := by
  refine ⟨rfl, rfl, ?_, ?_⟩ <;> unfold Told.edited <;> dsimp only <;> split <;> rfl

namespace Continues

variable {s : Sys} {light : LightSettings} {t : Told}

theorem of_idle (h : Continues s light t) (hidle : s.app.isOutstanding = false) :
    t.before = s.app.lightFor ∧ t.first = s.app.ipc.sent.length := by
  have hbefore := h.before
  have hfirst := h.first
  unfold Told.edited at hbefore hfirst
  dsimp only at hbefore hfirst
  rw [hidle, if_neg Bool.false_ne_true] at hbefore hfirst
  exact ⟨hbefore, hfirst⟩

theorem of_going (h : Continues s light t) (hout : s.app.isOutstanding = true) :
    t.before = s.told.before ∧ t.first = s.told.first := by
  have hbefore := h.before
  have hfirst := h.first
  unfold Told.edited at hbefore hfirst
  dsimp only at hbefore hfirst
  rw [hout, if_pos rfl] at hbefore hfirst
  exact ⟨hbefore, hfirst⟩

/-- The chain's commands are the last of the log. -/
theorem within (h : Continues s light t) (hI : Inv s) :
    (s.app.ipc.sent.take t.first).any SentCommand.isOutstanding = false ∧ t.first ≤ s.app.ipc.sent.length ∧
      t.first ≤ t.own := by
  rw [h.own]
  cases hout : s.app.isOutstanding with
  | true =>
    rw [(h.of_going hout).2]
    exact ⟨hI.before, hI.first, hI.first⟩
  | false =>
    rw [(h.of_idle hout).2, List.take_length]
    exact ⟨hout, Nat.le_refl _, Nat.le_refl _⟩

end Continues

/-- **An edit that is kept without being sent.** -/
theorem saved_step (hI : Inv s) (h : s.app.Saved light override app) (ht : Continues s light t)
    (htried : t.tried = s.told.tried)
    (hoverride : ∀ enabled, override = some enabled → enabled ∈ t.chosen ∨ enabled ∈ t.tried) :
    Inv ⟨app, t.closed app⟩ ∧ Sys.SettlesToNewest ⟨app, t.closed app⟩ := by
  obtain ⟨hbefore, hfirst, hown⟩ := ht.within hI
  have hsame : app.isOutstanding = s.app.isOutstanding := by rw [AppState.isOutstanding, h.ipc]; rfl
  cases hp : s.app.light.pending with
  | none =>
    obtain ⟨hidle, -, hnotried⟩ := hI.idle hp
    obtain ⟨-, htfirst⟩ := ht.of_idle hidle
    have hchain : app.ipc.sent.drop t.first = [] := by rw [htfirst, h.ipc, List.drop_length]
    have hclosed : t.closed app = { t with chosen := t.tried ++ t.chosen, tried := [] } := by
      unfold Told.closed
      rw [hsame, hidle, if_neg Bool.false_ne_true, hchain]
      rfl
    have hlight : app.lightFor = light := by
      unfold AppState.lightFor AppState.savedLightFor
      cases hkey : s.app.record.persistent with
      | true => rw [(h.persistent hkey).1, (h.persistent hkey).2]; rfl
      | false => rw [(h.volatile hkey).1]; rfl
    rw [hclosed]
    refine ⟨⟨fun _ => ⟨hsame.trans hidle, fun hkey => ?_, rfl⟩, fun p hsome => ?_, ?_, ?_, hown⟩, fun _ => ?_, ?_⟩
    · exact (h.persistent (h.record ▸ hkey)).1
    · rw [h.pending, hp] at hsome
      cases hsome
    · rw [h.ipc]
      exact hbefore
    · rw [h.ipc]
      exact hfirst
    · -- the chain is empty
      have hnone : ∀ {P : Prop}, (Sys.chain ⟨app, { t with chosen := t.tried ++ t.chosen, tried := [] }⟩).any
          SentCommand.hasFailed = true → P := by
        intro P hfailed
        unfold Sys.chain at hfailed
        rw [hchain] at hfailed
        cases hfailed
      exact ⟨fun _ => hlight.trans ht.newest.symm, fun hf => hnone hf, fun hf => hnone hf, fun hf => hnone hf⟩
    · intro enabled henabled
      rw [h.override] at henabled
      exact Or.inl (List.mem_append.2 (hoverride enabled henabled).symm)
  | some p =>
    obtain ⟨hchained, hgoing⟩ := hI.chained p hp
    have hout : s.app.isOutstanding = true := (isOutstanding_eq_chain hI.before).trans hgoing
    obtain ⟨htbefore, htfirst⟩ := ht.of_going hout
    have hchain : Sys.chain ⟨app, t⟩ = s.chain := by
      unfold Sys.chain
      rw [h.ipc, htfirst]
    rw [t.closed_of_outstanding app (hsame.trans hout)]
    refine ⟨⟨fun hnone => ?_, fun q hq => ?_, ?_, ?_, hown⟩, fun hidle => ?_, fun enabled henabled => ?_⟩
    · rw [h.pending, hp] at hnone
      cases hnone
    · rw [h.pending, hp] at hq
      obtain rfl := Option.some.inj hq
      refine ⟨⟨?_, hchained.settings, hchained.rollback.trans htbefore.symm, ?_, ?_, ?_, ?_, ?_, hchained.ids, ?_⟩, ?_⟩
      · rw [h.record]
        exact hchained.persistentKey
      · rw [h.record]
        exact hchained.previous
      · rw [h.record, htbefore]
        intro hkey
        rw [(h.volatile hkey).2]
        exact hchained.undo hkey
      · rw [h.record, ht.newest]
        exact fun hkey => (h.volatile hkey).1
      · rw [htried]
        exact hchained.tried
      · rw [hchain]
        exact hchained.batches
      · exact Nat.le_trans hchained.newestId h.nextId
      · rw [hchain]
        exact hgoing
    · rw [h.ipc]
      exact hbefore
    · rw [h.ipc]
      exact hfirst
    · rw [hsame, hout] at hidle
      cases hidle
    · rw [h.override] at henabled
      exact hoverride enabled henabled

/-- A batch whose id is not of the chain yet. -/
theorem ids_le {p : PendingLightCommand} (h : Chained s p) :
    ∀ id ∈ p.batches.map LightBatch.requestId, id ≤ s.app.lights.nextRequestId := by
  have hids := h.ids
  rw [PendingLightCommand.batches, List.map_append, List.map_singleton, List.pairwise_append] at hids
  intro id hid
  rw [PendingLightCommand.batches, List.map_append, List.map_singleton] at hid
  rcases List.mem_append.1 hid with hid | hid
  · exact Nat.le_of_lt (Nat.lt_of_lt_of_le (hids.2.2 id hid _ List.mem_cons_self) h.newestId)
  · rw [List.mem_singleton.1 hid]
    exact h.newestId

/-- The request of a new edit is told by the chain that it starts or goes on with. -/
theorem chained_begun (hI : Inv s) (ht : Continues s light t) (htried : rollback = none → t.tried = []) :
    Chained ⟨s.app.begun light override rollback, t⟩ (s.app.fresh light rollback) := by
  cases hp : s.app.light.pending with
  | none =>
    obtain ⟨hidle, hvolatile, -⟩ := hI.idle hp
    obtain ⟨htbefore, htfirst⟩ := ht.of_idle hidle
    have hrollback : s.app.lightWriteRollback s.app.lightFor = (s.app.lightFor, s.app.light.volatileSettings) := by
      unfold AppState.lightWriteRollback
      rw [hp]
    have hbatches : (s.app.fresh light rollback).batches = [⟨s.app.lights.nextRequestId + 1, 0, [], none⟩] := by
      unfold AppState.fresh PendingLightCommand.batches
      rw [hp]
      rfl
    have hchain : Sys.chain ⟨s.app.begun light override rollback, t⟩ = [] := by
      unfold Sys.chain
      rw [htfirst]
      exact List.drop_length
    refine ⟨rfl, rfl, ?_, fun hkey => ?_, fun hkey => ?_, fun _ => congrArg some ht.newest.symm, htried, ?_, ?_,
      Nat.le_refl _⟩
    · unfold AppState.fresh
      rw [hrollback]
      exact htbefore.symm
    · unfold AppState.fresh
      rw [hrollback]
      exact hvolatile hkey
    · unfold AppState.fresh
      rw [hrollback]
      exact htbefore.symm
    · rw [hbatches, hchain]
      exact BatchesOf.cons (batchOf_nil _) .nil
    · rw [hbatches]
      exact List.pairwise_singleton ..
  | some p =>
    obtain ⟨hchained, hgoing⟩ := hI.chained p hp
    have hout : s.app.isOutstanding = true := (isOutstanding_eq_chain hI.before).trans hgoing
    obtain ⟨htbefore, htfirst⟩ := ht.of_going hout
    have hrollback : s.app.lightWriteRollback s.app.lightFor = (p.rollbackSettings, p.previousVolatile) := by
      unfold AppState.lightWriteRollback
      rw [hp]
    have hbatches : (s.app.fresh light rollback).batches =
        p.batches ++ [⟨s.app.lights.nextRequestId + 1, 0, [], none⟩] := by
      unfold AppState.fresh
      rw [hp]
      rfl
    have hchain : Sys.chain ⟨s.app.begun light override rollback, t⟩ = s.chain := by
      unfold Sys.chain
      rw [htfirst]
      rfl
    refine ⟨rfl, rfl, ?_, fun hkey => ?_, fun hkey => ?_, fun _ => congrArg some ht.newest.symm, htried, ?_, ?_,
      Nat.le_refl _⟩
    · unfold AppState.fresh
      rw [hrollback]
      exact hchained.rollback.trans htbefore.symm
    · unfold AppState.fresh
      rw [hrollback]
      exact hchained.previous hkey
    · unfold AppState.fresh
      rw [hrollback, htbefore]
      exact hchained.undo hkey
    · rw [hbatches, hchain, ← List.append_nil s.chain]
      exact hchained.batches.concat (batchOf_nil _)
    · rw [hbatches, List.map_append, List.map_singleton, List.pairwise_append]
      refine ⟨hchained.ids, List.pairwise_singleton .., fun a ha b hb => ?_⟩
      rw [List.mem_singleton.1 hb]
      exact Nat.lt_succ_of_le (ids_le hchained a ha)

/-- No command of the chain has the id of a new request. -/
theorem ne_fresh (hI : Inv s) (ht : Continues s light t) :
    ∀ other ∈ s.app.ipc.sent.drop t.first, other.requestId ≠ s.app.lights.nextRequestId + 1 := by
  intro other hother heq
  cases hp : s.app.light.pending with
  | none =>
    rw [(ht.of_idle (hI.idle hp).1).2, List.drop_length] at hother
    exact absurd hother List.not_mem_nil
  | some p =>
    obtain ⟨hchained, hgoing⟩ := hI.chained p hp
    have hout : s.app.isOutstanding = true := (isOutstanding_eq_chain hI.before).trans hgoing
    rw [(ht.of_going hout).2] at hother
    have hle := ids_le hchained _ (hchained.batches.mem_ids other hother)
    omega

/-- **Where the chain goes on**, nothing is settled yet. -/
theorem goes_step {before : AppState} {requestId : Nat} (h : Goes t before app requestId)
    (hbefore : (before.ipc.sent.take t.first).any SentCommand.isOutstanding = false)
    (hfirst : t.first ≤ before.ipc.sent.length) (hown : t.first ≤ t.own)
    (hoverride : ∀ enabled, before.light.manualOverride = some enabled → enabled ∈ t.chosen ∨ enabled ∈ t.tried) :
    Inv ⟨app, t.closed app⟩ ∧ Sys.SettlesToNewest ⟨app, t.closed app⟩ := by
  obtain ⟨p, hp, -, hchained⟩ := h.pending
  obtain ⟨rest, hsent⟩ := h.sent
  have htake : (app.ipc.sent.take t.first).any SentCommand.isOutstanding = false := by
    rw [← hsent, List.take_append_of_le_length hfirst]
    exact hbefore
  have hout : app.isOutstanding = true := (isOutstanding_eq_chain (s := ⟨app, t⟩) htake).trans h.outstanding
  rw [t.closed_of_outstanding app hout]
  refine ⟨⟨fun hnone => ?_, fun q hq => ?_, htake, ?_, hown⟩, fun hidle => ?_, fun enabled henabled => ?_⟩
  · rw [hp] at hnone
    cases hnone
  · rw [hp] at hq
    obtain rfl := Option.some.inj hq
    exact ⟨hchained, h.outstanding⟩
  · exact Nat.le_trans hfirst h.sent.length_le
  · rw [hout] at hidle
    cases hidle
  · rw [h.override] at henabled
    exact hoverride enabled henabled

/-- A batch of commands that were all refused. -/
theorem batchOf_refused {batch : LightBatch} (hne : commands ≠ []) (hnodup : (commands.map LightCommand.control).Nodup)
    (hpending : batch.pending = 0) (hsuccesses : batch.successfulCommands = [])
    (hfailure : batch.failure.isSome = true) :
    BatchOf batch (AppState.refusedCommands batch.requestId commands) where
  ids e he := by
    obtain ⟨command, -, rfl⟩ := List.mem_map.1 he
    rfl
  controls := by
    rw [AppState.refusedCommands, List.map_map]
    exact hnodup
  pending := by
    rw [hpending, AppState.refusedCommands, List.filter_eq_nil_iff.2 fun e he => ?_]
    · rfl
    · obtain ⟨command, -, rfl⟩ := List.mem_map.1 he
      exact Bool.false_ne_true
  successes := by
    rw [hsuccesses, succeeded, AppState.refusedCommands, List.filter_eq_nil_iff.2 fun e he => ?_]
    · exact List.Perm.nil
    · obtain ⟨command, -, rfl⟩ := List.mem_map.1 he
      exact Bool.false_ne_true
  failure := by
    obtain ⟨command, rest, rfl⟩ := List.exists_cons_of_ne_nil hne
    rw [hfailure]
    rfl

/-- **Where the first command is refused and nothing else outstanding**, the edit is undone at once. -/
theorem refused_step (hI : Inv s) (hne : commands ≠ []) (hnodup : (commands.map LightCommand.control).Nodup)
    (ht : Continues s light t) (htried : rollback = none → t.tried = [])
    (hoverride : ∀ enabled, override = some enabled → enabled ∈ t.chosen ∨ enabled ∈ t.tried)
    (hp : s.app.light.pending = none) (haside : ∀ enabled, rollback = some ⟨some enabled⟩ → enabled ∈ t.chosen)
    (hgone : s.app.ipc.takes = some 0) (happ : app = s.app.sendEdit light override rollback commands) :
    Inv ⟨app, t.closed app⟩ ∧ Sys.SettlesToNewest ⟨app, t.closed app⟩ := by
  obtain ⟨hbefore, hfirst, hown⟩ := ht.within hI
  obtain ⟨hidle, hvolatile, -⟩ := hI.idle hp
  obtain ⟨htbefore, htfirst⟩ := ht.of_idle hidle
  have hbegun : Chained ⟨s.app.begun light override rollback, t⟩ (s.app.fresh light rollback) :=
    chained_begun hI ht htried
  have hbatches : (AppState.refused (s.app.fresh light rollback)).batches =
      [⟨s.app.lights.nextRequestId + 1, 0, [], some AppState.agentUnavailable⟩] := by
    unfold AppState.refused AppState.fresh PendingLightCommand.batches
    rw [hp]
    rfl
  have hbatch : BatchOf ⟨s.app.lights.nextRequestId + 1, 0, [], some AppState.agentUnavailable⟩
      (AppState.refusedCommands (s.app.lights.nextRequestId + 1) commands) :=
    batchOf_refused hne hnodup rfl rfl rfl
  have hlog : (s.app.refusedEdit light override rollback commands).ipc.sent =
      s.app.ipc.sent ++ AppState.refusedCommands (s.app.lights.nextRequestId + 1) commands := rfl
  have hchain : Sys.chain ⟨s.app.refusedEdit light override rollback commands, t⟩ =
      AppState.refusedCommands (s.app.lights.nextRequestId + 1) commands := by
    unfold Sys.chain
    rw [hlog, htfirst, List.drop_left]
  have howned : Sys.own ⟨s.app.refusedEdit light override rollback commands, t⟩ =
      AppState.refusedCommands (s.app.lights.nextRequestId + 1) commands := by
    unfold Sys.own
    rw [hlog, ht.own, List.drop_left]
  have hchained : Chained ⟨s.app.refusedEdit light override rollback commands, t⟩
      (AppState.refused (s.app.fresh light rollback)) := by
    refine ⟨hbegun.persistentKey, hbegun.settings, hbegun.rollback, hbegun.previous, hbegun.undo, hbegun.shown,
      hbegun.tried, ?_, ?_, hbegun.newestId⟩
    · rw [hbatches, hchain, ← List.append_nil (AppState.refusedCommands _ _)]
      exact BatchesOf.cons hbatch .nil
    · rw [hbatches]
      exact List.pairwise_singleton ..
  have hnone : ∀ e ∈ AppState.refusedCommands (s.app.lights.nextRequestId + 1) commands, e.outcome = some false := by
    intro e he
    obtain ⟨command, -, rfl⟩ := List.mem_map.1 he
    rfl
  obtain ⟨hinv, hiff⟩ := finished hchained
    (by
      rw [hchain, List.any_eq_false]
      exact fun e he => by rw [SentCommand.isOutstanding, hnone e he]; exact Bool.false_ne_true)
    (by rw [hlog, List.take_append_of_le_length hfirst]; exact hbefore)
    (by rw [hlog, List.length_append]; exact Nat.le_add_right_of_le hfirst) hown hoverride
    (happ.trans (AppState.sendEdit_refused hp hgone light override rollback hne))
  refine ⟨hinv, hiff.2 ⟨fun hok => ?_, fun _ _ hkey => ?_, fun _ _ hall => ?_, fun _ _ => haside⟩⟩
  · rw [hchain, ← hbatch.failure] at hok
    cases hok
  · change s.app.config.getD .default = t.before
    rw [htbefore, AppState.lightFor, AppState.savedLightFor, hvolatile hkey, Option.none_or]
  · obtain ⟨command, rest, rfl⟩ := List.exists_cons_of_ne_nil hne
    rw [howned] at hall
    cases hall

/-- **An edit whose commands are handed over**, whether the client thread takes them or is gone. -/
theorem sent_step (hI : Inv s) (hne : commands ≠ []) (hnodup : (commands.map LightCommand.control).Nodup)
    (ht : Continues s light t) (htried : rollback = none → t.tried = [])
    (hoverride : ∀ enabled, override = some enabled → enabled ∈ t.chosen ∨ enabled ∈ t.tried)
    (haside : s.app.light.pending = none → ∀ enabled, rollback = some ⟨some enabled⟩ → enabled ∈ t.chosen)
    (happ : app = s.app.sendEdit light override rollback commands) :
    Inv ⟨app, t.closed app⟩ ∧ Sys.SettlesToNewest ⟨app, t.closed app⟩ := by
  obtain ⟨hbefore, hfirst, hown⟩ := ht.within hI
  have hlength : t.first ≤ (s.app.begun light override rollback).ipc.sent.length := hfirst
  have hchained : Chained ⟨s.app.begun light override rollback, t⟩ (s.app.fresh light rollback) :=
    chained_begun hI ht htried
  by_cases hgoes : s.app.ipc.takes ≠ some 0 ∨
      (Sys.chain ⟨s.app.begun light override rollback, t⟩).any SentCommand.isOutstanding = true
  · obtain ⟨command, rest, rfl⟩ := List.exists_cons_of_ne_nil hne
    rw [List.map_cons, List.nodup_cons] at hnodup
    obtain ⟨hone, outcome, hsent⟩ := goes_queue hchained rfl hfirst
      (fun other hother hid => absurd hid (ne_fresh hI ht other hother)) hgoes
    have hall := goes_queue_all rest hone.pending hone.outstanding (Nat.le_trans hfirst hone.sent.length_le)
      hnodup.2 fun other hother e he hid => by
        rw [hsent, List.drop_append_of_le_length hlength] at he
        rcases List.mem_append.1 he with he | he
        · exact absurd hid (ne_fresh hI ht e he)
        · rw [List.mem_singleton.1 he]
          exact fun hsame => hnodup.1 (List.mem_map.2 ⟨other, hother, hsame.symm⟩)
    have hgoing : Goes t (s.app.begun light override rollback) app (s.app.lights.nextRequestId + 1) := by
      rw [happ]
      exact ⟨hall.pending, hall.outstanding, hone.sent.trans hall.sent, hall.override.trans hone.override⟩
    exact goes_step hgoing hbefore hfirst hown hoverride
  · obtain ⟨hgone, hsettled⟩ := not_or.1 hgoes
    have hidle : s.app.isOutstanding = false :=
      (isOutstanding_eq_chain (s := ⟨s.app.begun light override rollback, t⟩) hbefore).trans
        (Bool.eq_false_iff.2 hsettled)
    have hp : s.app.light.pending = none := (chained_of_pending hI).2 hidle
    exact refused_step hI hne hnodup ht htried hoverride hp (haside hp) (not_not.1 hgone) happ

/-! ## Steps -/

section

variable {s : Sys} (hI : Inv s) (hP : s.SettlesToNewest)

theorem edited_choices (t : Told) (app : AppState) (light : LightSettings) :
    (t.edited app light).chosen = t.chosen ∧ (t.edited app light).tried = t.tried := by
  unfold Told.edited
  dsimp only
  split <;> exact ⟨rfl, rfl⟩

include hI in
/-- Where a chain puts no override aside, none is tried. -/
theorem tried_of_rollback {changed : Bool} (h : s.app.lightModeOverrideRollback changed = none) :
    s.told.tried = [] := by
  cases hp : s.app.light.pending with
  | none => exact (hI.idle hp).2.2
  | some p =>
    unfold AppState.lightModeOverrideRollback at h
    rw [hp, Option.bind_some] at h
    exact (hI.chained p hp).1.tried (Option.or_eq_none_iff.1 h).1

include hI hP in
/-- What a new chain puts aside was chosen since the last camera transition. -/
theorem aside_of_idle {changed : Bool} (hp : s.app.light.pending = none) {enabled : Bool}
    (h : s.app.lightModeOverrideRollback changed = some ⟨some enabled⟩) : enabled ∈ s.told.chosen := by
  unfold AppState.lightModeOverrideRollback at h
  rw [hp, Option.bind_none, Option.none_or] at h
  cases changed with
  | false => cases h
  | true =>
    have hoverride : s.app.light.manualOverride = some enabled :=
      congrArg ManualOverrideRollback.previous (Option.some.inj h)
    have hchosen := hP.override enabled hoverride
    rw [(hI.idle hp).2.2] at hchosen
    exact hchosen.resolve_right List.not_mem_nil

include hI hP in
theorem commit_step (light : LightSettings) :
    Inv ⟨s.app.commitLight light, (s.told.edited s.app light).closed (s.app.commitLight light)⟩ ∧
      Sys.SettlesToNewest
        ⟨s.app.commitLight light, (s.told.edited s.app light).closed (s.app.commitLight light)⟩ := by
  obtain ⟨hchosen, htried⟩ := edited_choices s.told s.app light
  have hoverride : ∀ enabled, (if s.app.cameraModeChanged light then none else s.app.light.manualOverride) =
      some enabled → enabled ∈ (s.told.edited s.app light).chosen ∨ enabled ∈ (s.told.edited s.app light).tried := by
    intro enabled henabled
    rw [hchosen, htried]
    split at henabled
    · cases henabled
    · exact hP.override enabled henabled
  rcases s.app.commitLight_cases light with ⟨hne, hsent⟩ | hsaved
  · refine sent_step hI hne (s.app.nodup_editCommands light) (continues_edited s light) (fun hnone => ?_) hoverride
      (fun hp enabled henabled => ?_) hsent
    · rw [htried]
      exact tried_of_rollback hI hnone
    · rw [hchosen]
      exact aside_of_idle hI hP hp henabled
  · exact saved_step hI hsaved (continues_edited s light) htried hoverride

variable {s' : Sys}

include hI hP in
theorem manualPower_step (enabled : Bool) (hs : s.step (.manualPower enabled) = some s') :
    Inv s' ∧ s'.SettlesToNewest := by
  obtain rfl := Option.some.inj hs
  cases hpolicy : s.app.cameraPolicyApplies s.app.lightFor with
  | false =>
    have hcommit : s.app.commitManualLightPower enabled = s.app.commitLight { s.app.lightFor with enabled } := by
      unfold AppState.commitManualLightPower
      dsimp only
      rw [hpolicy, Bool.not_false, if_pos rfl]
    rw [if_neg Bool.false_ne_true, hcommit]
    exact commit_step hI hP _
  | true =>
    rw [if_pos rfl]
    have hcontinues := continues_edited s { s.app.lightFor with enabled }
    obtain ⟨hchosen, htried⟩ := edited_choices s.told s.app { s.app.lightFor with enabled }
    rcases s.app.commitManualLightPower_cases enabled hpolicy with hsent | hsaved
    · have hlonger : s.app.ipc.sent.length < (s.app.commitManualLightPower enabled).ipc.sent.length := by
        rw [hsent, AppState.sendEdit, List.foldl_cons, List.foldl_nil, AppState.length_queue]
        exact Nat.lt_succ_self _
      rw [decide_eq_true hlonger, Told.choosing, if_pos rfl]
      have hnodup : ([LightCommand.power enabled].map LightCommand.control).Nodup := List.nodup_singleton _
      refine sent_step (t := { s.told.edited s.app { s.app.lightFor with enabled } with
          tried := enabled :: (s.told.edited s.app { s.app.lightFor with enabled }).tried }) hI
        (List.cons_ne_nil _ _) hnodup ⟨hcontinues.before, hcontinues.first, hcontinues.newest, hcontinues.own⟩
        (fun hnone => ?_) (fun other hother => ?_) (fun hp other hother => ?_) hsent
      · unfold AppState.lightModeOverrideRollback at hnone
        cases (Option.or_eq_none_iff.1 hnone).2
      · obtain rfl := Option.some.inj hother
        exact Or.inr List.mem_cons_self
      · rw [hchosen]
        exact aside_of_idle hI hP hp hother
    · have hsame : ¬s.app.ipc.sent.length < (s.app.commitManualLightPower enabled).ipc.sent.length := by
        rw [hsaved.ipc]
        exact Nat.lt_irrefl _
      rw [decide_eq_false hsame, Told.choosing, if_neg Bool.false_ne_true]
      refine saved_step hI hsaved ⟨hcontinues.before, hcontinues.first, hcontinues.newest, hcontinues.own⟩ htried
        fun other hother => ?_
      obtain rfl := Option.some.inj hother
      exact Or.inl List.mem_cons_self

include hI hP in
theorem camera_step (active : Bool) (hs : s.step (.camera active) = some s') :
    Inv s' ∧ s'.SettlesToNewest := by
  obtain rfl := Option.some.inj hs
  unfold AppState.setCameraActive
  by_cases hchanged : s.app.lights.cameraActive ≠ active
  · rw [if_pos hchanged, if_pos hchanged]
    refine ⟨⟨fun hp => ?_, fun p hp => ?_, hI.before, hI.first, hI.own⟩, fun hidle => ?_, fun _ hnone => ?_⟩
    · exact ⟨(hI.idle hp).1, (hI.idle hp).2.1, rfl⟩
    · obtain ⟨h, hout⟩ := hI.chained p hp
      exact ⟨⟨h.persistentKey, h.settings, h.rollback, h.previous, h.undo, h.shown, fun _ => rfl, h.batches, h.ids,
        h.newestId⟩, hout⟩
    · obtain ⟨hnewest, hcarried, hrest, hundone⟩ := hP.kept hidle
      exact ⟨hnewest, hcarried, hrest, hundone⟩
    · cases hnone
  · rw [if_neg hchanged, if_neg hchanged]
    refine ⟨⟨hI.idle, fun p hp => ?_, hI.before, hI.first, hI.own⟩, fun hidle => ?_, hP.override⟩
    · obtain ⟨h, hout⟩ := hI.chained p hp
      exact ⟨⟨h.persistentKey, h.settings, h.rollback, h.previous, h.undo, h.shown, h.tried, h.batches, h.ids,
        h.newestId⟩, hout⟩
    · obtain ⟨hnewest, hcarried, hrest, hundone⟩ := hP.kept hidle
      exact ⟨hnewest, hcarried, hrest, hundone⟩

include hI hP in
theorem recordChanged_step {route : Option Hid.DeviceRoute} {online : Bool}
    {lightCapabilities : Option Lights.LightCapabilities}
    (hs : s.step (.recordChanged route online lightCapabilities) = some s') : Inv s' ∧ s'.SettlesToNewest := by
  obtain rfl := Option.some.inj hs
  refine ⟨⟨hI.idle, fun p hp => ?_, hI.before, hI.first, hI.own⟩, fun hidle => ?_, hP.override⟩
  · obtain ⟨h, hout⟩ := hI.chained p hp
    exact ⟨⟨h.persistentKey, h.settings, h.rollback, h.previous, h.undo, h.shown, h.tried, h.batches, h.ids,
      h.newestId⟩, hout⟩
  · obtain ⟨hnewest, hcarried, hrest, hundone⟩ := hP.kept hidle
    exact ⟨hnewest, hcarried, hrest, hundone⟩

include hI hP in
/-- **The result of a command**: only the last one of a chain asks anything. -/
theorem answered_step {requestId : Nat} {command : LightCommand} {result : Except String Unit}
    (hs : s.step (.answered requestId command result) = some s') :
    Inv s' ∧ (s'.SettlesToNewest ↔ s.Reconcilable (.answered requestId command result)) := by
  unfold Sys.step at hs
  dsimp only at hs
  by_cases hawaits : s.app.awaits requestId command = true
  · rw [if_pos hawaits] at hs
    obtain rfl := Option.some.inj hs
    obtain ⟨e, he, hcond⟩ := List.any_eq_true.1 hawaits
    rw [Bool.and_eq_true, Bool.and_eq_true, decide_eq_true_iff, decide_eq_true_iff] at hcond
    obtain ⟨⟨rfl, hcommand⟩, houtstanding⟩ := hcond
    have houtcome : e.outcome = none := of_decide_eq_true houtstanding
    -- so the request is pending, and the command one of the chain's
    have hout : s.app.isOutstanding = true := List.any_eq_true.2 ⟨e, he, houtstanding⟩
    obtain ⟨p, hp⟩ : ∃ p, s.app.light.pending = some p := by
      cases hp : s.app.light.pending with
      | none =>
        rw [(hI.idle hp).1] at hout
        cases hout
      | some p => exact ⟨p, rfl⟩
    obtain ⟨hchained, -⟩ := hI.chained p hp
    have hchain : e ∈ s.chain := by
      rw [← List.take_append_drop s.told.first s.app.ipc.sent] at he
      rcases List.mem_append.1 he with he | he
      · exact absurd houtstanding (List.any_eq_false.1 hI.before e he)
      · exact he
    have hids : (p.batches.map LightBatch.requestId).Nodup := hchained.ids.imp fun h => Nat.ne_of_lt h
    obtain ⟨batch, superseded, hanswered, hid, hsameIds, hbatches⟩ :=
      p.answered_of hchained.batches hids hchain hcommand houtcome result
    have hmarked : Sys.chain ⟨s.marked e.requestId command result, s.told⟩ =
        s.chain.map (SentCommand.answered e.requestId command (isOk result)) := List.map_drop.symm
    have hnext : Chained ⟨s.marked e.requestId command result, s.told⟩
        { p with toLightBatch := batch, superseded } := by
      refine ⟨hchained.persistentKey, hchained.settings, hchained.rollback, hchained.previous, hchained.undo,
        hchained.shown, hchained.tried, ?_, ?_, ?_⟩
      · rw [hmarked]
        exact hbatches
      · change ((superseded ++ [batch]).map LightBatch.requestId).Pairwise (· < ·)
        rw [hsameIds]
        exact hchained.ids
      · change batch.requestId ≤ _
        rw [hid]
        exact hchained.newestId
    have hbefore : ((s.marked e.requestId command result).ipc.sent.take s.told.first).any SentCommand.isOutstanding =
        false := by
      have hsame : (s.app.ipc.sent.take s.told.first).map
          (SentCommand.answered e.requestId command (isOk result)) = s.app.ipc.sent.take s.told.first :=
        map_answered_eq_self fun other hother hcond =>
          List.any_eq_false.1 hI.before other hother (decide_eq_true hcond.2.2)
      rw [Sys.marked, ← List.map_take, hsame]
      exact hI.before
    have hfirst : s.told.first ≤ (s.marked e.requestId command result).ipc.sent.length := by
      rw [Sys.marked, List.length_map]
      exact hI.first
    have hmarkedOut : (s.marked e.requestId command result).isOutstanding =
        (s.chain.map (SentCommand.answered e.requestId command (isOk result))).any SentCommand.isOutstanding := by
      rw [← hmarked]
      exact isOutstanding_eq_chain (s := ⟨s.marked e.requestId command result, s.told⟩) hbefore
    have hsettle := AppState.settle_some (s := s.marked e.requestId command result) hp hanswered
    rw [PendingLightCommand.isOutstanding_eq (p := { p with toLightBatch := batch, superseded }) hbatches] at hsettle
    cases hdone : (s.chain.map (SentCommand.answered e.requestId command (isOk result))).any
        SentCommand.isOutstanding with
    | true =>
      rw [hdone, if_pos rfl] at hsettle
      have hout : ((s.marked e.requestId command result).holding
          (some { p with toLightBatch := batch, superseded })).isOutstanding = true := hmarkedOut.trans hdone
      rw [hsettle, s.told.closed_of_outstanding _ hout]
      refine ⟨⟨fun hnone => (by cases hnone), fun q hq => ?_, hbefore, hfirst, hI.own⟩,
        iff_of_true ⟨fun hidle => ?_, hP.override⟩ fun _ hidle => ?_⟩
      · obtain rfl := Option.some.inj hq
        refine ⟨⟨hnext.persistentKey, hnext.settings, hnext.rollback, hnext.previous, hnext.undo, hnext.shown,
          hnext.tried, hnext.batches, hnext.ids, hnext.newestId⟩, ?_⟩
        rw [← hdone, ← hmarked]
        rfl
      · rw [hout] at hidle
        cases hidle
      · rw [hmarkedOut, hdone] at hidle
        cases hidle
    | false =>
      rw [hdone, if_neg Bool.false_ne_true] at hsettle
      rw [hsettle]
      obtain ⟨hinv, hiff⟩ := finished (s := ⟨s.marked e.requestId command result, s.told⟩) hnext
        (by rw [hmarked]; exact hdone) hbefore hfirst hI.own hP.override rfl
      refine ⟨hinv, hiff.trans ⟨fun h => ?_, fun h => ?_⟩⟩
      · intro _ _ q hq
        obtain rfl := Option.some.inj (hp.symm.trans hq)
        exact ⟨h.newest, h.saved, h.rest, h.aside⟩
      · have h := h hawaits (hmarkedOut.trans hdone) p hp
        exact ⟨h.newest, h.saved, h.rest, h.aside⟩
  · rw [if_neg hawaits] at hs
    cases hs

include hI hP in
theorem settles_step (e : LightEvent) (hs : s.step e = some s') :
    Inv s' ∧ (s'.SettlesToNewest ↔ s.Reconcilable e) := by
  cases e with
  | commit light =>
    obtain rfl := Option.some.inj hs
    obtain ⟨hinv, hsettles⟩ := commit_step hI hP light
    exact ⟨hinv, iff_of_true hsettles trivial⟩
  | manualPower enabled =>
    obtain ⟨hinv, hsettles⟩ := manualPower_step hI hP enabled hs
    exact ⟨hinv, iff_of_true hsettles trivial⟩
  | recordChanged =>
    obtain ⟨hinv, hsettles⟩ := recordChanged_step hI hP hs
    exact ⟨hinv, iff_of_true hsettles trivial⟩
  | camera active =>
    obtain ⟨hinv, hsettles⟩ := camera_step hI hP active hs
    exact ⟨hinv, iff_of_true hsettles trivial⟩
  | answered => exact answered_step hI hP hs

end

/-! ## Runs -/

/-- A light nobody has edited yet, with whatever is saved of it. -/
def Told.start (app : AppState) : Told where
  before := app.lightFor
  first := 0
  newest := app.lightFor
  own := 0
  chosen := app.light.manualOverride.toList
  tried := []

/-- The app as it starts, for one light. -/
structure Start (app : AppState) : Prop where
  pending : app.light.pending = none
  sent : app.ipc.sent = []
  volatile : app.record.persistent = true → app.light.volatileSettings = none

theorem inv_start (h : Start app) : Inv ⟨app, .start app⟩ where
  idle _ := ⟨by rw [AppState.isOutstanding, h.sent]; rfl, h.volatile, rfl⟩
  chained p hp := by
    rw [h.pending] at hp
    cases hp
  before := by rw [h.sent]; rfl
  first := Nat.zero_le _
  own := Nat.le_refl _

theorem settles_start (h : Start app) : Sys.SettlesToNewest ⟨app, .start app⟩ := by
  have hchain : Sys.chain ⟨app, .start app⟩ = [] := by
    unfold Sys.chain
    rw [h.sent]
    rfl
  refine ⟨fun _ => ⟨fun _ => rfl, fun hf => ?_, fun hf => ?_, fun hf => ?_⟩, fun enabled henabled => Or.inl ?_⟩
  · rw [hchain] at hf
    cases hf
  · rw [hchain] at hf
    cases hf
  · rw [hchain] at hf
    cases hf
  · exact Option.mem_toList.2 henabled

theorem reconcilable_of_refused {e : LightEvent} (h : s.step e = none) : s.Reconcilable e := by
  cases e with
  | answered requestId command result =>
    intro hawaits
    unfold Sys.step at h
    dsimp only at h
    rw [if_pos hawaits] at h
    cases h
  | commit => trivial
  | manualPower => trivial
  | recordChanged => trivial
  | camera => trivial

/-- **Light edits settle to the newest** in every state that a run reaches, if and only if the last result of each
chain finds the chain reconcilable. -/
theorem edits_settle {app : AppState} (h : Start app) (events : List LightEvent) :
    EveryState Sys.step Sys.SettlesToNewest ⟨app, .start app⟩ events ↔
      Along Sys.step Sys.Reconcilable ⟨app, .start app⟩ events :=
  Lib.everyState_iff_along_of_inv Inv Sys.SettlesToNewest Sys.Reconcilable
    (fun _ e _ hI hP hs => settles_step hI hP e hs) (fun _ _ => reconcilable_of_refused) events _ (inv_start h)
    (settles_start h)

/-! ## One light -/

def glowRecord : DeviceRecord where
  configKey := "raw:046d:c900:serial:glow"
  persistent := true
  route := some (.rawHid 0x046d 0xc900 0xff43 0x0202 "serial:glow")
  online := true
  lightCapabilities := some
    { power := true
      brightness := some ⟨0, 100, 5, .percent, by decide, by decide, by decide, by decide⟩
      temperature := none
      color := false
      zones := false }

/-- The light, with the camera policy on or off in what is saved. -/
def glow (autoCamera : Bool) : AppState where
  macos := true
  record := glowRecord
  lights := ⟨false, 0⟩
  light := ⟨none, none, none, none⟩
  config := some { LightSettings.default with autoCamera }
  ipc := ⟨none, []⟩

def glowing (enabled autoCamera : Bool) (brightnessPercent : Nat) : LightSettings :=
  { LightSettings.default with enabled, autoCamera, brightnessPercent }

theorem start_glow (autoCamera : Bool) : Start (glow autoCamera) := ⟨rfl, rfl, fun _ => rfl⟩

/-- Two edits overlap, and a command of the newer one fails. -/
def overlapping : List LightEvent :=
  [.commit (glowing false false 40), .commit (glowing true false 60), .answered 2 (.power true) (.ok ()),
    .answered 2 (.brightnessPercent 60) (.error "multiple raw HID devices"), .answered 1 (.power false) (.ok ()),
    .answered 1 (.brightnessPercent 40) (.ok ())]

theorem edits_settle_overlapping :
    EveryState Sys.step Sys.SettlesToNewest ⟨glow false, .start (glow false)⟩ overlapping ∧
      (run Sys.step ⟨glow false, .start (glow false)⟩ overlapping).map (fun s => s.app.lightFor) =
        some (glowing true false 40) :=
  ⟨(edits_settle (start_glow false) overlapping).2 (by decide +kernel), by decide +kernel⟩

/-- An edit of the offline light, with the commands of an older one in flight. -/
def editedOffline : List LightEvent :=
  [.commit (glowing true false 40), .recordChanged glowRecord.route false glowRecord.lightCapabilities,
    .commit (glowing true false 60), .answered 1 (.power true) (.ok ()), .answered 1 (.brightnessPercent 40) (.ok ())]

/-- The edit that turned the camera policy on fails in part, the one after it does not. -/
def policyLost : List LightEvent :=
  [.commit (glowing true true 40), .commit (glowing true true 60), .answered 1 (.power false) (.ok ()),
    .answered 1 (.brightnessPercent 40) (.error "timed out"), .answered 2 (.power false) (.ok ()),
    .answered 2 (.brightnessPercent 60) (.ok ())]

/-- A power choice fails after the camera started. -/
def overrideBack : List LightEvent :=
  [.manualPower true, .answered 1 (.power true) (.ok ()), .manualPower false, .camera true,
    .answered 2 (.power false) (.error "timed out")]

/-- Whatever every state of a run meets, the last one does. -/
theorem settles_last {t : Sys} {events : List LightEvent} (h : EveryState Sys.step Sys.SettlesToNewest s events)
    (hrun : run Sys.step s events = some t) : t.SettlesToNewest :=
  h events t (List.prefix_refl _) hrun

/-- **An older edit overwrites the newest one**, a setting of the newest one is lost, and a cleared override is back. -/
theorem edits_do_not_settle :
    ¬EveryState Sys.step Sys.SettlesToNewest ⟨glow false, .start (glow false)⟩ editedOffline ∧
      ¬EveryState Sys.step Sys.SettlesToNewest ⟨glow false, .start (glow false)⟩ policyLost ∧
      ¬EveryState Sys.step Sys.SettlesToNewest ⟨glow true, .start (glow true)⟩ overrideBack := by
  have hlast : ∀ (app : AppState) (events : List LightEvent),
      ((run Sys.step ⟨app, .start app⟩ events).any fun t => !decide t.SettlesToNewest) = true →
        ¬EveryState Sys.step Sys.SettlesToNewest ⟨app, .start app⟩ events := by
    intro app events hany h
    obtain ⟨t, hrun, hnot⟩ := (Option.any_eq_true _ _).1 hany
    rw [decide_eq_true (settles_last h hrun)] at hnot
    cases hnot
  exact ⟨hlast _ _ (by decide +kernel), hlast _ _ (by decide +kernel), hlast _ _ (by decide +kernel)⟩

end LightEdits
end Desktop
end OpenLogi
