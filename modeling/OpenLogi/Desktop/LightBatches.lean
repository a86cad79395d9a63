import Mathlib.Data.List.Nodup
import OpenLogi.Desktop.LightChains
/-!
# LightBatches — the batches of a chain and its commands

A batch counts what came of one edit's commands, in whatever order their results arrived.  The batches of a chain say
of its commands, in the order they were sent, all that reconciling asks.
-/
namespace OpenLogi
namespace Desktop
namespace LightEdits

open Lights (LightCommand LightControl)

variable {batch : LightBatch} {batches : List LightBatch} {sent chain : List SentCommand} {requestId : Nat}
  {command : LightCommand}

/-! ## One batch -/

/-- The batch counts these commands; no two of them carry one control. -/
structure BatchOf (batch : LightBatch) (sent : List SentCommand) : Prop where
  ids : ∀ e ∈ sent, e.requestId = batch.requestId
  controls : (sent.map fun e => e.command.control).Nodup
  pending : batch.pending = (sent.filter SentCommand.isOutstanding).length
  successes : batch.successfulCommands.Perm (succeeded sent)
  failure : batch.failure.isSome = sent.any SentCommand.hasFailed

theorem batchOf_nil (requestId : Nat) : BatchOf ⟨requestId, 0, [], none⟩ [] where
  ids _ h := absurd h List.not_mem_nil
  controls := List.nodup_nil
  pending := rfl
  successes := List.Perm.nil
  failure := rfl

theorem succeeded_append (xs ys : List SentCommand) : succeeded (xs ++ ys) = succeeded xs ++ succeeded ys := by
  rw [succeeded, List.filter_append, List.map_append]
  rfl

theorem BatchOf.pending_eq_zero (h : BatchOf batch sent) :
    batch.pending = 0 ↔ sent.any SentCommand.isOutstanding = false := by
  rw [h.pending, List.length_eq_zero_iff, List.filter_eq_nil_iff, List.any_eq_false]

theorem BatchOf.controls_succeeded (h : BatchOf batch sent) : ((succeeded sent).map LightCommand.control).Nodup := by
  have hsub := (List.filter_sublist (p := SentCommand.hasSucceeded) (l := sent)).map fun e => e.command.control
  rw [succeeded, List.map_map]
  exact h.controls.sublist hsub

/-- One more command of another control. -/
theorem BatchOf.concat (h : BatchOf batch sent) {b : LightBatch} (e : SentCommand)
    (hfresh : ∀ other ∈ sent, other.command.control ≠ e.command.control) (hid : e.requestId = batch.requestId)
    (hb : b.requestId = batch.requestId)
    (hpending : b.pending = batch.pending + ([e].filter SentCommand.isOutstanding).length)
    (hsuccesses : b.successfulCommands = batch.successfulCommands ++ succeeded [e])
    (hfailure : b.failure.isSome = (batch.failure.isSome || e.hasFailed)) : BatchOf b (sent ++ [e]) where
  ids other hother := by
    rw [hb]
    rcases List.mem_append.1 hother with hother | hother
    · exact h.ids other hother
    · rw [List.mem_singleton.1 hother, hid]
  controls := by
    rw [List.map_append, List.nodup_append]
    refine ⟨h.controls, List.nodup_singleton _, fun a ha b hb hab => ?_⟩
    obtain ⟨other, hother, rfl⟩ := List.mem_map.1 ha
    exact hfresh other hother (hab.trans (List.mem_singleton.1 hb))
  pending := by rw [hpending, List.filter_append, List.length_append, h.pending]
  successes := by
    rw [hsuccesses, succeeded_append]
    exact h.successes.append_right _
  failure := by rw [hfailure, h.failure, List.any_append, List.any_cons, List.any_nil, Bool.or_false]

/-- A result changes no other command. -/
theorem map_answered_eq_self {ok : Bool}
    (h : ∀ e ∈ sent, ¬(e.requestId = requestId ∧ e.command = command ∧ e.outcome = none)) :
    sent.map (SentCommand.answered requestId command ok) = sent := by
  have hid : sent.map (SentCommand.answered requestId command ok) = sent.map id :=
    List.map_congr_left fun e he => if_neg (h e he)
  rw [hid, List.map_id]

/-- The batch takes the result of one of its outstanding commands. -/
theorem BatchOf.answered (h : BatchOf batch sent) {e : SentCommand} (he : e ∈ sent) (hcommand : e.command = command)
    (houtcome : e.outcome = none) (result : Except String Unit) :
    BatchOf (batch.answered command result)
      (sent.map (SentCommand.answered batch.requestId command (isOk result))) := by
  obtain ⟨pre, post, rfl⟩ := List.append_of_mem he
  have hid : e.requestId = batch.requestId := h.ids e he
  have hcontrols := h.controls
  rw [List.map_append, List.map_cons, List.nodup_append, List.nodup_cons] at hcontrols
  -- the others are commands of other controls
  have hpre : pre.map (SentCommand.answered batch.requestId command (isOk result)) = pre := by
    refine map_answered_eq_self fun other hother hcond => ?_
    refine hcontrols.2.2 _ (List.mem_map_of_mem hother) _ List.mem_cons_self ?_
    rw [hcond.2.1, hcommand]
  have hpost : post.map (SentCommand.answered batch.requestId command (isOk result)) = post := by
    refine map_answered_eq_self fun other hother hcond => hcontrols.2.1.1 ?_
    rw [hcommand, ← hcond.2.1]
    exact List.mem_map.2 ⟨other, hother, rfl⟩
  have hone : SentCommand.answered batch.requestId command (isOk result) e =
      { e with outcome := some (isOk result) } := if_pos ⟨hid, hcommand, houtcome⟩
  have hpending := h.pending
  have hsuccesses := h.successes
  have hfailure := h.failure
  rw [List.filter_append, List.length_append, List.filter_cons_of_pos (by simp [SentCommand.isOutstanding, houtcome]),
    List.length_cons] at hpending
  rw [succeeded_append, succeeded, succeeded, List.filter_cons_of_neg (by simp [SentCommand.hasSucceeded, houtcome])]
    at hsuccesses
  rw [List.any_append, List.any_cons, SentCommand.hasFailed, houtcome] at hfailure
  rw [List.map_append, List.map_cons, hpre, hpost, hone]
  refine ⟨fun other hother => ?_, ?_, ?_, ?_, ?_⟩
  · rcases List.mem_append.1 hother with hother | hother
    · exact h.ids other (List.mem_append_left _ hother)
    · rcases List.mem_cons.1 hother with rfl | hother
      · exact hid
      · exact h.ids other (List.mem_append_right _ (List.mem_cons_of_mem _ hother))
  · have hsame := h.controls
    rw [List.map_append, List.map_cons] at hsame ⊢
    exact hsame
  · rw [List.filter_append, List.length_append, List.filter_cons_of_neg (by simp [SentCommand.isOutstanding])]
    change batch.pending - 1 = _
    omega
  · rw [succeeded_append, succeeded, succeeded]
    cases result with
    | ok =>
      rw [List.filter_cons_of_pos (by rfl), List.map_cons]
      change (batch.successfulCommands ++ [command]).Perm _
      rw [hcommand]
      refine ((hsuccesses.append_right [command]).trans List.perm_append_comm).trans ?_
      rw [List.singleton_append]
      exact List.perm_middle.symm
    | error =>
      rw [List.filter_cons_of_neg (by simp [SentCommand.hasSucceeded, isOk])]
      exact hsuccesses
  · rw [List.any_append, List.any_cons]
    cases result with
    | ok =>
      change batch.failure.isSome = _
      rw [hfailure]
      rfl
    | error error =>
      change (batch.failure.or (some error)).isSome = (pre.any SentCommand.hasFailed || (true || _))
      rw [Option.isSome_or, Bool.true_or, Option.isSome_some, Bool.or_true, Bool.or_true]

/-! ## The batches of a chain -/

inductive BatchesOf : List LightBatch → List SentCommand → Prop where
  | nil : BatchesOf [] []
  | cons {batch : LightBatch} {sent : List SentCommand} {batches : List LightBatch} {chain : List SentCommand} :
    BatchOf batch sent → BatchesOf batches chain → BatchesOf (batch :: batches) (sent ++ chain)

namespace BatchesOf

theorem concat (h : BatchesOf batches chain) (hb : BatchOf batch sent) :
    BatchesOf (batches ++ [batch]) (chain ++ sent) := by
  induction h with
  | nil =>
    have hone := cons hb nil
    rwa [List.append_nil] at hone
  | cons hfirst _ ih =>
    rw [List.cons_append, List.append_assoc]
    exact cons hfirst ih

theorem mem_ids (h : BatchesOf batches chain) : ∀ e ∈ chain, e.requestId ∈ batches.map LightBatch.requestId := by
  induction h with
  | nil => exact fun _ he => absurd he List.not_mem_nil
  | cons hfirst _ ih =>
    intro e he
    rcases List.mem_append.1 he with he | he
    · rw [hfirst.ids e he]
      exact List.mem_cons_self
    · exact List.mem_cons_of_mem _ (ih e he)

theorem any_pending (h : BatchesOf batches chain) :
    (batches.any fun batch => decide (batch.pending ≠ 0)) = chain.any SentCommand.isOutstanding := by
  induction h with
  | nil => rfl
  | cons hfirst _ ih =>
    rw [List.any_cons, List.any_append, ih]
    congr 1
    rw [Bool.eq_iff_iff, decide_eq_true_iff, ← Bool.not_eq_false, ← hfirst.pending_eq_zero]

theorem any_failure (h : BatchesOf batches chain) :
    (batches.any fun batch => batch.failure.isSome) = chain.any SentCommand.hasFailed := by
  induction h with
  | nil => rfl
  | cons hfirst _ ih => rw [List.any_cons, List.any_append, ih, hfirst.failure]

theorem latest (c : LightControl) (h : BatchesOf batches chain) :
    latest c (batches.flatMap LightBatch.successfulCommands) = latest c (succeeded chain) := by
  induction h with
  | nil => rfl
  | cons hfirst _ ih =>
    rw [List.flatMap_cons, latest_append, ih, succeeded_append, latest_append,
      latest_perm c hfirst.successes ((hfirst.successes.map _).nodup_iff.2 hfirst.controls_succeeded)]

theorem perm_succeeded (h : BatchesOf batches chain) :
    (batches.flatMap LightBatch.successfulCommands).Perm (succeeded chain) := by
  induction h with
  | nil => exact List.Perm.nil
  | cons hfirst _ ih =>
    rw [List.flatMap_cons, succeeded_append]
    exact hfirst.successes.append ih

/-- **The batch that a result belongs to takes it**, and no other. -/
theorem answerSuperseded (h : BatchesOf batches chain) (hids : (batches.map LightBatch.requestId).Nodup)
    {e : SentCommand} (he : e ∈ chain) (hcommand : e.command = command) (houtcome : e.outcome = none)
    (result : Except String Unit) :
    ∃ answered, answerSuperseded e.requestId command result batches = some answered ∧
      answered.map LightBatch.requestId = batches.map LightBatch.requestId ∧
        BatchesOf answered (chain.map (SentCommand.answered e.requestId command (isOk result))) := by
  induction h with
  | nil => exact absurd he List.not_mem_nil
  | @cons batch sent batches chain hfirst hrest ih =>
    rw [List.map_cons, List.nodup_cons] at hids
    rw [List.map_append, LightEdits.answerSuperseded]
    by_cases hid : batch.requestId = e.requestId
    · have hmem : e ∈ sent := by
        rcases List.mem_append.1 he with he | he
        · exact he
        · exact absurd (hid ▸ hrest.mem_ids e he) hids.1
      rw [if_pos hid]
      refine ⟨batch.answered command result :: batches, rfl, rfl, ?_⟩
      have hsame : chain.map (SentCommand.answered e.requestId command (isOk result)) = chain := by
        refine map_answered_eq_self fun other hother hcond => hids.1 ?_
        rw [hid, ← hcond.1]
        exact hrest.mem_ids other hother
      rw [hsame, ← hid]
      exact cons (hfirst.answered hmem hcommand houtcome result) hrest
    · have hmem : e ∈ chain := by
        rcases List.mem_append.1 he with he | he
        · exact absurd (hfirst.ids e he).symm hid
        · exact he
      obtain ⟨answered, hanswered, hsame, hbatches⟩ := ih hids.2 hmem
      have hother : sent.map (SentCommand.answered e.requestId command (isOk result)) = sent :=
        map_answered_eq_self fun other hother hcond => hid ((hfirst.ids other hother).symm.trans hcond.1)
      rw [if_neg hid, hanswered, hother]
      refine ⟨batch :: answered, rfl, ?_, cons hfirst hbatches⟩
      rw [List.map_cons, List.map_cons, hsame]

/-- The last batch, apart from the older ones. -/
theorem last : ∀ {batches : List LightBatch} {chain : List SentCommand}, BatchesOf (batches ++ [batch]) chain →
    ∃ older own, chain = older ++ own ∧ BatchesOf batches older ∧ BatchOf batch own
  | [], _, h => by
    cases h with
    | cons hfirst hrest =>
      cases hrest
      exact ⟨[], _, List.append_nil _, nil, hfirst⟩
  | _ :: _, _, h => by
    cases h with
    | cons hfirst hrest =>
      obtain ⟨older, own, rfl, holder, hown⟩ := last hrest
      exact ⟨_, own, (List.append_assoc _ older own).symm, cons hfirst holder, hown⟩

end BatchesOf

namespace PendingLightCommand

variable {p : PendingLightCommand}

theorem isOutstanding_eq (h : BatchesOf p.batches chain) : p.isOutstanding = chain.any SentCommand.isOutstanding := by
  rw [← h.any_pending, batches, List.any_append, List.any_cons, List.any_nil, Bool.or_false, isOutstanding,
    Bool.or_comm]

theorem firstFailure_isSome (h : BatchesOf p.batches chain) :
    p.firstFailure.isSome = chain.any SentCommand.hasFailed := by
  rw [← h.any_failure, batches, List.any_append, List.any_cons, List.any_nil, Bool.or_false, firstFailure,
    Option.isSome_or, Bool.or_comm]
  congr 1
  rw [Bool.eq_iff_iff, List.findSome?_isSome_iff, List.any_eq_true]

/-- **A result is counted in the batch of its request.** -/
theorem answered_of (h : BatchesOf p.batches chain) (hids : (p.batches.map LightBatch.requestId).Nodup)
    {e : SentCommand} (he : e ∈ chain) (hcommand : e.command = command) (houtcome : e.outcome = none)
    (result : Except String Unit) :
    ∃ batch superseded,
      p.answered e.requestId command result = some { p with toLightBatch := batch, superseded } ∧
        batch.requestId = p.requestId ∧
        (superseded ++ [batch]).map LightBatch.requestId = p.batches.map LightBatch.requestId ∧
        BatchesOf (superseded ++ [batch]) (chain.map (SentCommand.answered e.requestId command (isOk result))) := by
  obtain ⟨older, own, rfl, holder, hown⟩ := h.last
  rw [batches, List.map_append, List.nodup_append] at hids
  rw [List.map_append]
  unfold answered
  by_cases hid : p.requestId = e.requestId
  · have hmem : e ∈ own := by
      rcases List.mem_append.1 he with he | he
      · exact absurd hid.symm (hids.2.2 _ (holder.mem_ids e he) _ List.mem_cons_self)
      · exact he
    have hsame : older.map (SentCommand.answered e.requestId command (isOk result)) = older := by
      refine map_answered_eq_self fun other hother hcond => ?_
      exact hids.2.2 _ (holder.mem_ids other hother) _ List.mem_cons_self (hcond.1.trans hid.symm)
    rw [if_pos hid, hsame]
    refine ⟨p.toLightBatch.answered command result, p.superseded, rfl, rfl, ?_, ?_⟩
    · rw [batches, List.map_append, List.map_append]
      rfl
    · rw [← hid]
      exact holder.concat (hown.answered hmem hcommand houtcome result)
  · have hmem : e ∈ older := by
      rcases List.mem_append.1 he with he | he
      · exact he
      · exact absurd (hown.ids e he).symm hid
    have hsame : own.map (SentCommand.answered e.requestId command (isOk result)) = own :=
      map_answered_eq_self fun other hother hcond => hid ((hown.ids other hother).symm.trans hcond.1)
    obtain ⟨superseded, hanswered, hsameIds, hbatches⟩ :=
      holder.answerSuperseded hids.1 hmem hcommand houtcome result
    rw [if_neg hid, hanswered, hsame]
    refine ⟨p.toLightBatch, superseded, rfl, rfl, ?_, hbatches.concat hown⟩
    rw [batches, List.map_append, List.map_append, hsameIds]

end PendingLightCommand

end LightEdits
end Desktop
end OpenLogi
