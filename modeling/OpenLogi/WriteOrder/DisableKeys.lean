import OpenLogi.WriteOrder.Policy
/-!
# DisableKeys — the pending Disable Keys writes of one route

A request begins a pending write and hands it to a worker, which takes a turn, writes once the turn has come and the
intent is current, and owns the pending write through the native I/O.  The completion waits for its requester, who
accepts it or abandons it at any later time.  The device keeps the last value it accepted: when that is an abandoned
one, something has to be left that will write again.
-/
namespace OpenLogi
namespace WriteOrder
namespace DisableKeys

open Lib (Along EveryState everyState_iff_along_of_inv)

/-- Where a pending write is. -/
inductive Stage where
  | begun
  | queued (turn : Nat)
  | writing (turn : Nat)
  /-- The completion nobody has consumed; `ok` is the outcome of the write. -/
  | completed (ok : Bool)
  /-- `confirm` returned, and the drop of the write follows. -/
  | answered (confirmed : Bool)
  deriving DecidableEq

/-- A pending write that is not dropped, under the number of its intent. -/
structure Job (T : Type) where
  value : T
  stage : Stage

/-- How a native write ends: a device can accept a value and not answer. -/
inductive Native where
  | written
  | unanswered
  | failed
  deriving DecidableEq

structure Route (T : Type) where
  state : State T
  finished : Finished := .default
  jobs : Nat → Option (Job T) := fun _ => none
  /-- Who holds the setting turn. -/
  writing : Option Nat := none
  /-- The intent of the last value that the device accepted. -/
  device : Option (Intent T) := none
  /-- The intents whose pending write was dropped unconfirmed. -/
  abandoned : List Nat := []

inductive Event (T : Type) where
  | begin (value : T)
  | reserve (number : Nat)
  /-- The worker gives up before the native write: it was cancelled, superseded, or has no device. -/
  | refuse (number : Nat)
  | admission (number : Nat)
  | complete (number : Nat) (native : Native)
  | accept (number : Nat)
  | drop (number : Nat)
  | scheduleRecovery

variable {T : Type}

namespace Route

/-- The stage of a job changes. -/
def goto (r : Route T) (number : Nat) (value : T) (stage : Stage) : Route T :=
  { r with jobs := Function.update r.jobs number (some ⟨value, stage⟩) }

def step (r : Route T) : Event T → Option (Route T)
  | .begin value =>
    let (intent, state) := r.state.begin value
    some { r.goto intent.number value .begun with state := state }
  | .reserve number =>
    match r.jobs number with
    | some ⟨value, .begun⟩ =>
      let (turn, finished) := r.finished.reserve
      some { r.goto number value (.queued turn) with finished := finished }
    | _ => none
  | .refuse number =>
    match r.jobs number with
    | some ⟨value, .queued turn⟩ =>
      some { r.goto number value (.completed false) with finished := r.finished.finish turn }
    | _ => none
  | .admission number =>
    match r.jobs number with
    | some ⟨value, .queued turn⟩ =>
      if r.writing.isNone && r.finished.isTurnOf turn && r.state.isCurrent number then
        some { r.goto number value (.writing turn) with writing := some number }
      else none
    | _ => none
  | .complete number native =>
    match r.jobs number with
    | some ⟨value, .writing turn⟩ =>
      some { r.goto number value (.completed (native = .written)) with
        finished := r.finished.finish turn
        writing := none
        device := if native = .failed then r.device else some ⟨number, value⟩ }
    | _ => none
  | .accept number =>
    match r.jobs number with
    | some ⟨value, .completed true⟩ =>
      let (ok, state) := r.state.confirm ⟨number, value⟩
      some { r.goto number value (.answered ok) with state := state }
    | _ => none
  | .drop number =>
    match r.jobs number with
    | none | some ⟨_, .queued _⟩ | some ⟨_, .writing _⟩ => none
    | some ⟨value, stage⟩ =>
      some { r with
        state := (r.state.dropPending ⟨number, value⟩).2
        jobs := Function.update r.jobs number none
        abandoned := if stage = .answered true then r.abandoned else number :: r.abandoned }
  | .scheduleRecovery => some { r with state := r.state.scheduleRecovery.2 }

/-- A value that the device keeps although its intent was abandoned has a newer pending write or a recovery. -/
def Recovers (r : Route T) : Prop :=
  ∀ intent, r.device = some intent → intent.number ∈ r.abandoned →
    (∃ n ∈ r.state.pending, intent.number < n) ∨ r.state.recovery ≠ .none

instance (r : Route T) : Decidable r.Recovers :=
  match h : r.device with
  | none => isTrue fun _ hsome => by rw [h] at hsome; cases hsome
  | some intent =>
    decidable_of_iff (intent.number ∈ r.abandoned →
        (∃ n ∈ r.state.pending, intent.number < n) ∨ r.state.recovery ≠ .none)
      ⟨fun himp _ hsome => by rw [h] at hsome; cases hsome; exact himp, fun hrecovers => hrecovers intent h⟩

/-- A confirmation that succeeds is of the last value that the device accepted. -/
def ConfirmsLast (r : Route T) : Event T → Prop
  | .accept number => (∃ value, r.jobs number = some ⟨value, .completed true⟩) → r.state.isCurrent number = true →
    r.device.map Intent.number = some number
  | _ => True

end Route

/-! ## The invariant -/

/-- The native write ended well. -/
def Stage.good : Stage → Bool
  | .completed ok => ok
  | .answered _ => true
  | _ => false

structure Inv (r : Route T) : Prop where
  bounded : r.state.committedNumber ≤ r.state.next
  held : ∀ n, n ∈ r.state.pending ↔ ∃ job, r.jobs n = some job
  numbered : ∀ n job, r.jobs n = some job → n ≤ r.state.next
  gone : ∀ n ∈ r.abandoned, n ≤ r.state.next ∧ r.jobs n = none
  /-- What the device accepted last is held, abandoned or committed, and nothing newer was committed. -/
  device : ∀ d, r.device = some d → d.number ≤ r.state.next ∧ r.state.committedNumber ≤ d.number ∧
    ((∃ job, r.jobs d.number = some job) ∨ d.number ∈ r.abandoned ∨ d.number ≤ r.state.committedNumber)
  good : ∀ n job, r.jobs n = some job → job.stage.good = true → ∃ d, r.device = some d ∧ n ≤ d.number
  confirmed : ∀ n value, r.jobs n = some ⟨value, .answered true⟩ → n ≤ r.state.committedNumber
  unconfirmed : ∀ n job, r.jobs n = some job → job.stage ≠ .answered true → r.state.committedNumber ≠ n
  /-- The job that writes is newer than all that were written. -/
  writing : ∀ n value turn, r.jobs n = some ⟨value, .writing turn⟩ → r.writing = some n ∧ r.state.committedNumber ≤ n ∧
    ∀ m job, r.jobs m = some job → job.stage.good = true → m < n

theorem inv_start {state : State T} (hpending : state.pending = ∅) (hbounded : state.committedNumber ≤ state.next) :
    Inv ({ state := state } : Route T) where
  bounded := hbounded
  held n := by simp [hpending]
  numbered _ _ hno := by cases hno
  gone _ hno := by cases hno
  device _ hno := by cases hno
  good _ _ hno := by cases hno
  confirmed _ _ hno := by cases hno
  unconfirmed _ _ hno := by cases hno
  writing _ _ _ hno := by cases hno

section
variable {r : Route T} {n : Nat} {value : T}

theorem goto_jobs (r : Route T) (n m : Nat) (value : T) (stage : Stage) :
    (r.goto n value stage).jobs m = if m = n then some ⟨value, stage⟩ else r.jobs m := by
  simp [Route.goto, Function.update_apply]

variable {job : Job T} {stage : Stage}

/-- The held writes are not newer than the latest intent. -/
theorem Inv.le_latest (h : Inv r) (hjob : r.jobs n = some job) : n ≤ r.state.latest := by
  refine Nat.le_trans ?_ (Nat.le_max_left _ _)
  exact Finset.le_sup (f := id) ((h.held n).2 ⟨job, hjob⟩)

/-- A stage changes under one number, and no write is begun or dropped. -/
theorem goto_held (hjob : r.jobs n = some job) (value : T) (stage : Stage) (m : Nat) :
    (∃ job, (r.goto n value stage).jobs m = some job) ↔ ∃ job, r.jobs m = some job := by
  simp only [goto_jobs]
  split
  · next heq => simp [heq, hjob]
  · rfl

theorem Inv.goto_gone (h : Inv r) (hjob : r.jobs n = some job) (value : T) (stage : Stage) :
    ∀ m ∈ r.abandoned, m ≤ r.state.next ∧ (r.goto n value stage).jobs m = none := by
  intro m hm
  obtain ⟨hle, hnone⟩ := h.gone m hm
  refine ⟨hle, ?_⟩
  rw [goto_jobs, if_neg (fun heq => by rw [heq, hjob] at hnone; cases hnone), hnone]

theorem Inv.goto_numbered (h : Inv r) (hjob : r.jobs n = some job) (value : T) (stage : Stage) :
    ∀ m job, (r.goto n value stage).jobs m = some job → m ≤ r.state.next := by
  intro m job hm
  obtain ⟨old, hold⟩ := (goto_held hjob value stage m).1 ⟨job, hm⟩
  exact h.numbered m old hold

theorem inv_begin (h : Inv r) (value : T) :
    Inv { r.goto (r.state.next + 1) value .begun with state := (r.state.begin value).2 } := by
  have hfresh : ∀ m job, r.jobs m = some job → m ≠ r.state.next + 1 := fun m job hjob heq => by
    have := h.numbered m job hjob
    omega
  have hbounded := h.bounded
  refine ⟨Nat.le_succ_of_le h.bounded, fun m => ?_, fun m job hjob => ?_, fun m hm => ?_, fun d hd => ?_,
    fun m job hjob hgood => ?_, fun m v hjob => ?_, fun m job hjob hstage => ?_, fun m v turn hjob => ?_⟩
  · show m ∈ insert (r.state.next + 1) r.state.pending ↔ _
    rw [Finset.mem_insert, h.held]
    simp only [goto_jobs]
    split
    · next heq => simp [heq]
    · next hne => simp [hne]
  · simp only [goto_jobs] at hjob
    show m ≤ r.state.next + 1
    split at hjob
    · omega
    · exact Nat.le_succ_of_le (h.numbered m job hjob)
  · obtain ⟨hle, hnone⟩ := h.gone m hm
    refine ⟨Nat.le_succ_of_le hle, ?_⟩
    simp only [goto_jobs]
    rw [if_neg (by omega), hnone]
  · obtain ⟨hle, hcommitted, hwhere⟩ := h.device d hd
    refine ⟨Nat.le_succ_of_le hle, hcommitted, hwhere.imp_left fun ⟨job, hjob⟩ => ⟨job, ?_⟩⟩
    simp only [goto_jobs]
    rw [if_neg (hfresh _ _ hjob), hjob]
  · simp only [goto_jobs] at hjob
    split at hjob
    · cases hjob
      cases hgood
    · exact h.good m job hjob hgood
  · simp only [goto_jobs] at hjob
    split at hjob
    · cases hjob
    · exact h.confirmed m v hjob
  · simp only [goto_jobs] at hjob
    show r.state.committedNumber ≠ m
    split at hjob
    · omega
    · exact h.unconfirmed m job hjob hstage
  · simp only [goto_jobs] at hjob
    split at hjob
    · cases hjob
    · obtain ⟨hwriting, hle, hnewer⟩ := h.writing m v turn hjob
      refine ⟨hwriting, hle, fun k job hk hgood => ?_⟩
      simp only [goto_jobs] at hk
      split at hk
      · cases hk
        cases hgood
      · exact hnewer k job hk hgood

/-- A stage on the way, before the native write or without one. -/
theorem inv_goto (h : Inv r) {old : Stage} (hjob : r.jobs n = some ⟨value, old⟩) (hold : old ≠ .answered true)
    (hbad : stage.good = false) (hidle : ∀ turn, stage ≠ .writing turn) (finished : Finished) :
    Inv { r.goto n value stage with finished := finished } := by
  have hsome := goto_held hjob value stage
  refine ⟨h.bounded, fun m => (h.held m).trans (hsome m).symm, h.goto_numbered hjob _ _, h.goto_gone hjob _ _,
    fun d hd => ?_, fun m job hm hgood => ?_, fun m v hm => ?_, fun m job hm hstage => ?_, fun m v turn hm => ?_⟩
  · obtain ⟨hle, hcommitted, hwhere⟩ := h.device d hd
    exact ⟨hle, hcommitted, hwhere.imp_left (hsome d.number).2⟩
  · simp only [goto_jobs] at hm
    split at hm
    · cases hm
      rw [hbad] at hgood
      cases hgood
    · exact h.good m job hm hgood
  · simp only [goto_jobs] at hm
    split at hm
    · cases hm
      cases hbad
    · exact h.confirmed m v hm
  · simp only [goto_jobs] at hm
    split at hm
    · next heq =>
      subst heq
      exact h.unconfirmed m _ hjob hold
    · exact h.unconfirmed m job hm hstage
  · simp only [goto_jobs] at hm
    split at hm
    · cases hm
      exact (hidle turn rfl).elim
    · obtain ⟨hwriting, hle, hnewer⟩ := h.writing m v turn hm
      refine ⟨hwriting, hle, fun k job hk hgood => ?_⟩
      simp only [goto_jobs] at hk
      split at hk
      · cases hk
        rw [hbad] at hgood
        cases hgood
      · exact hnewer k job hk hgood

theorem inv_admission (h : Inv r) {turn : Nat} (hjob : r.jobs n = some ⟨value, .queued turn⟩) (hfree : r.writing = none)
    (hcurrent : r.state.isCurrent n = true) : Inv { r.goto n value (.writing turn) with writing := some n } := by
  have hlatest := (r.state.isCurrent_iff n).1 hcurrent
  have hsome := goto_held hjob value (.writing turn)
  refine ⟨h.bounded, fun m => (h.held m).trans (hsome m).symm, h.goto_numbered hjob _ _, h.goto_gone hjob _ _,
    fun d hd => ?_, fun m job hm hgood => ?_, fun m v hm => ?_, fun m job hm hstage => ?_, fun m v turn' hm => ?_⟩
  · obtain ⟨hle, hcommitted, hwhere⟩ := h.device d hd
    exact ⟨hle, hcommitted, hwhere.imp_left (hsome d.number).2⟩
  · simp only [goto_jobs] at hm
    split at hm
    · cases hm
      cases hgood
    · exact h.good m job hm hgood
  · simp only [goto_jobs] at hm
    split at hm
    · cases hm
    · exact h.confirmed m v hm
  · simp only [goto_jobs] at hm
    split at hm
    · next heq =>
      subst heq
      exact h.unconfirmed m _ hjob (fun hno => (by cases hno))
    · exact h.unconfirmed m job hm hstage
  · simp only [goto_jobs] at hm
    split at hm
    · next heq =>
      subst heq
      refine ⟨rfl, ?_, fun k job hk hgood => ?_⟩
      · rw [hlatest]
        exact r.state.committedNumber_le_latest
      · simp only [goto_jobs] at hk
        split at hk
        · cases hk
          cases hgood
        · next hne =>
          have hle := h.le_latest hk
          omega
    · have hwriting := (h.writing m v turn' hm).1
      rw [hfree] at hwriting
      cases hwriting

theorem inv_complete (h : Inv r) {turn : Nat} (hjob : r.jobs n = some ⟨value, .writing turn⟩) (native : Native)
    (finished : Finished) :
    Inv { r.goto n value (.completed (native = .written)) with
      finished := finished
      writing := none
      device := if native = .failed then r.device else some ⟨n, value⟩ } := by
  obtain ⟨hwriting, hcommitted, hnewer⟩ := h.writing n value turn hjob
  have hsome := goto_held hjob value (.completed (native = .written))
  refine ⟨h.bounded, fun m => (h.held m).trans (hsome m).symm, h.goto_numbered hjob _ _, h.goto_gone hjob _ _,
    fun d hd => ?_, fun m job hm hgood => ?_, fun m v hm => ?_, fun m job hm hstage => ?_, fun m v turn' hm => ?_⟩
  · simp only at hd
    split at hd
    · obtain ⟨hle, hcommitted, hwhere⟩ := h.device d hd
      exact ⟨hle, hcommitted, hwhere.imp_left (hsome d.number).2⟩
    · cases hd
      exact ⟨h.numbered n _ hjob, hcommitted, .inl ((hsome n).2 ⟨_, hjob⟩)⟩
  · simp only [goto_jobs] at hm
    simp only
    split at hm
    · next heq =>
      cases hm
      have hwritten : native = .written := by simpa [Stage.good] using hgood
      rw [hwritten, if_neg (fun hno => by cases hno)]
      exact ⟨_, rfl, Nat.le_of_eq heq⟩
    · obtain ⟨d, hd, hle⟩ := h.good m job hm hgood
      split
      · exact ⟨d, hd, hle⟩
      · exact ⟨_, rfl, Nat.le_of_lt (hnewer m job hm hgood)⟩
  · simp only [goto_jobs] at hm
    split at hm
    · cases hm
    · exact h.confirmed m v hm
  · simp only [goto_jobs] at hm
    split at hm
    · next heq =>
      subst heq
      exact h.unconfirmed m _ hjob (fun hno => (by cases hno))
    · exact h.unconfirmed m job hm hstage
  · simp only [goto_jobs] at hm
    split at hm
    · cases hm
    · next hne =>
      -- two jobs do not write at once
      have hother := (h.writing m v turn' hm).1
      rw [hwriting] at hother
      exact (hne (Option.some.inj hother).symm).elim

theorem inv_accept (h : Inv r) (hjob : r.jobs n = some ⟨value, .completed true⟩) :
    Inv { r.goto n value (.answered (r.state.confirm ⟨n, value⟩).1) with state := (r.state.confirm ⟨n, value⟩).2 } := by
  obtain ⟨d, hd, hnd⟩ := h.good n _ hjob rfl
  have hsome := goto_held hjob value
  by_cases hlatest : r.state.latest = n
  · have hconfirm : r.state.confirm ⟨n, value⟩ =
        (true, { r.state with committed := some ⟨n, value⟩, recovery := .none }) := by
      rw [State.confirm, if_neg (not_not.2 hlatest)]
    rw [hconfirm]
    have hcommitted : r.state.committedNumber ≤ n := hlatest ▸ r.state.committedNumber_le_latest
    refine ⟨h.numbered n _ hjob, fun m => (h.held m).trans (hsome _ m).symm, h.goto_numbered hjob _ _,
      h.goto_gone hjob _ _, fun d' hd' => ?_,
      fun m job hm hgood => ?_, fun m v hm => ?_, fun m job hm hstage => ?_, fun m v turn hm => ?_⟩
    · cases hd.symm.trans hd'
      obtain ⟨hle, -, hwhere⟩ := h.device d hd
      refine ⟨hle, hnd, ?_⟩
      obtain hheld | habandoned | hold := hwhere
      · exact .inl ((hsome _ d.number).2 hheld)
      · exact .inr (.inl habandoned)
      · exact .inr (.inr (Nat.le_trans hold hcommitted))
    · simp only [goto_jobs] at hm
      split at hm
      · next heq => exact ⟨d, hd, heq ▸ hnd⟩
      · exact h.good m job hm hgood
    · simp only [goto_jobs] at hm
      show m ≤ n
      split at hm
      · next heq => exact Nat.le_of_eq heq
      · exact Nat.le_trans (h.confirmed m v hm) hcommitted
    · simp only [goto_jobs] at hm
      show n ≠ m
      split at hm
      · cases hm
        exact (hstage rfl).elim
      · next hne => exact Ne.symm hne
    · simp only [goto_jobs] at hm
      split at hm
      · cases hm
      · -- a job that writes is newer than the one confirmed, which was the latest
        have hnewer := (h.writing m v turn hm).2.2 n _ hjob rfl
        have hle := h.le_latest hm
        omega
  · have hconfirm : r.state.confirm ⟨n, value⟩ = (false, r.state) := by rw [State.confirm, if_pos hlatest]
    rw [hconfirm]
    refine ⟨h.bounded, fun m => (h.held m).trans (hsome _ m).symm, h.goto_numbered hjob _ _,
      h.goto_gone hjob _ _, fun d' hd' => ?_,
      fun m job hm hgood => ?_, fun m v hm => ?_, fun m job hm hstage => ?_, fun m v turn hm => ?_⟩
    · obtain ⟨hle, hcommitted, hwhere⟩ := h.device d' hd'
      exact ⟨hle, hcommitted, hwhere.imp_left (hsome _ d'.number).2⟩
    · simp only [goto_jobs] at hm
      split at hm
      · next heq => exact ⟨d, hd, heq ▸ hnd⟩
      · exact h.good m job hm hgood
    · simp only [goto_jobs] at hm
      split at hm
      · cases hm
      · exact h.confirmed m v hm
    · simp only [goto_jobs] at hm
      split at hm
      · next heq =>
        subst heq
        exact h.unconfirmed m _ hjob (fun hno => (by cases hno))
      · exact h.unconfirmed m job hm hstage
    · simp only [goto_jobs] at hm
      split at hm
      · cases hm
      · obtain ⟨hwriting, hle, hnewer⟩ := h.writing m v turn hm
        refine ⟨hwriting, hle, fun k job hk hgood => ?_⟩
        simp only [goto_jobs] at hk
        split at hk
        · next heq => exact heq ▸ hnewer n _ hjob rfl
        · exact hnewer k job hk hgood

theorem dropPending_state (state : State T) (intent : Intent T) :
    (state.dropPending intent).2.committed = state.committed ∧
      (state.dropPending intent).2.pending = state.pending.erase intent.number ∧
      (state.dropPending intent).2.next = state.next := by
  unfold State.dropPending
  dsimp only
  split <;> exact ⟨rfl, rfl, rfl⟩

theorem inv_drop (h : Inv r) (hjob : r.jobs n = some ⟨value, stage⟩) :
    Inv { r with
      state := (r.state.dropPending ⟨n, value⟩).2
      jobs := Function.update r.jobs n none
      abandoned := if stage = .answered true then r.abandoned else n :: r.abandoned } := by
  obtain ⟨hcommitted, hpending, hnext⟩ := dropPending_state r.state ⟨n, value⟩
  have hnumber : (r.state.dropPending ⟨n, value⟩).2.committedNumber = r.state.committedNumber := by
    rw [State.committedNumber, hcommitted, State.committedNumber]
  have hjobs : ∀ m job, Function.update r.jobs n none m = some job → m ≠ n ∧ r.jobs m = some job := by
    intro m job hm
    rw [Function.update_apply] at hm
    split at hm
    · cases hm
    · next hne => exact ⟨hne, hm⟩
  refine ⟨?_, fun m => ?_, fun m job hm => ?_, fun m hm => ?_, fun d hd => ?_, fun m job hm hgood => ?_,
    fun m v hm => ?_, fun m job hm hstage => ?_, fun m v turn hm => ?_⟩
  · rw [hnumber, hnext]
    exact h.bounded
  · simp only [hpending, Finset.mem_erase, h.held]
    constructor
    · rintro ⟨hne, job, hm⟩
      exact ⟨job, by rw [Function.update_of_ne hne, hm]⟩
    · rintro ⟨job, hm⟩
      obtain ⟨hne, hm⟩ := hjobs m job hm
      exact ⟨hne, job, hm⟩
  · rw [hnext]
    exact h.numbered m job (hjobs m job hm).2
  · rw [hnext]
    have hold : m = n ∨ m ∈ r.abandoned := by
      simp only at hm
      split at hm
      · exact .inr hm
      · exact List.mem_cons.1 hm
    obtain heq | hold := hold
    · subst heq
      exact ⟨h.numbered m _ hjob, Function.update_self ..⟩
    · obtain ⟨hle, hnone⟩ := h.gone m hold
      refine ⟨hle, ?_⟩
      simp only [Function.update_apply]
      split
      · rfl
      · exact hnone
  · obtain ⟨hle, hcommitted, hwhere⟩ := h.device d hd
    rw [hnumber, hnext]
    refine ⟨hle, hcommitted, ?_⟩
    obtain ⟨job, hheld⟩ | habandoned | hold := hwhere
    · by_cases heq : d.number = n
      · by_cases hanswered : stage = .answered true
        · subst hanswered
          exact .inr (.inr (heq ▸ h.confirmed n value hjob))
        · refine .inr (.inl ?_)
          rw [if_neg hanswered, heq]
          exact List.mem_cons_self
      · exact .inl ⟨job, (Function.update_of_ne heq _ _).trans hheld⟩
    · refine .inr (.inl ?_)
      split
      · exact habandoned
      · exact List.mem_cons_of_mem _ habandoned
    · exact .inr (.inr hold)
  · exact h.good m job (hjobs m job hm).2 hgood
  · rw [hnumber]
    exact h.confirmed m v (hjobs m _ hm).2
  · rw [hnumber]
    exact h.unconfirmed m job (hjobs m job hm).2 hstage
  · obtain ⟨hwriting, hle, hnewer⟩ := h.writing m v turn (hjobs m _ hm).2
    rw [hnumber]
    exact ⟨hwriting, hle, fun k job hk hgood => hnewer k job (hjobs k job hk).2 hgood⟩

theorem inv_scheduleRecovery (h : Inv r) : Inv { r with state := r.state.scheduleRecovery.2 } := by
  unfold State.scheduleRecovery
  split
  · exact h
  · exact ⟨h.bounded, h.held, h.numbered, h.gone, h.device, h.good, h.confirmed, h.unconfirmed, h.writing⟩

/-! ## Recovery -/

theorem recovers_accept (h : Inv r) (hrecovers : r.Recovers) (hjob : r.jobs n = some ⟨value, .completed true⟩) :
    Route.Recovers { r.goto n value (.answered (r.state.confirm ⟨n, value⟩).1) with
        state := (r.state.confirm ⟨n, value⟩).2 } ↔ r.ConfirmsLast (.accept n) := by
  obtain ⟨d, hd, hnd⟩ := h.good n _ hjob rfl
  by_cases hlatest : r.state.latest = n
  · have hconfirm : r.state.confirm ⟨n, value⟩ =
        (true, { r.state with committed := some ⟨n, value⟩, recovery := .none }) := by
      rw [State.confirm, if_neg (not_not.2 hlatest)]
    rw [hconfirm]
    constructor
    · intro hafter _ _
      rw [hd, Option.map_some, Option.some.injEq]
      by_contra hne
      -- the device holds a newer value, which is neither held nor committed
      obtain ⟨-, -, ⟨job, hheld⟩ | habandoned | hold⟩ := h.device d hd
      · have hle := h.le_latest hheld
        omega
      · obtain ⟨m, hm, hlt⟩ | hno := hafter d hd habandoned
        · obtain ⟨job, hheld⟩ := (h.held m).1 hm
          have hle := h.le_latest hheld
          omega
        · exact hno rfl
      · have hle := r.state.committedNumber_le_latest
        omega
    · intro hlast intent hintent habandoned
      have heq := hlast ⟨value, hjob⟩ ((r.state.isCurrent_iff n).2 hlatest.symm)
      have hintent : r.device = some intent := hintent
      rw [hintent, Option.map_some, Option.some.injEq] at heq
      have hnone := (h.gone intent.number habandoned).2
      rw [heq, hjob] at hnone
      cases hnone
  · have hconfirm : r.state.confirm ⟨n, value⟩ = (false, r.state) := by rw [State.confirm, if_pos hlatest]
    rw [hconfirm]
    refine iff_of_true hrecovers fun _ hcurrent => ?_
    exact (hlatest ((r.state.isCurrent_iff n).1 hcurrent).symm).elim

theorem recovers_drop (h : Inv r) (hrecovers : r.Recovers) (hjob : r.jobs n = some ⟨value, stage⟩) :
    Route.Recovers { r with
      state := (r.state.dropPending ⟨n, value⟩).2
      jobs := Function.update r.jobs n none
      abandoned := if stage = .answered true then r.abandoned else n :: r.abandoned } := by
  intro intent hintent habandoned
  obtain ⟨-, hcommitted, -⟩ := h.device intent hintent
  by_cases hall : r.state.committed.all fun accepted => accepted.number < n
  · refine .inr ?_
    simp [State.dropPending, hall]
  · -- a newer intent was committed, so the device has the dropped value no longer
    have hstate : (r.state.dropPending ⟨n, value⟩).2 = { r.state with pending := r.state.pending.erase n } := by
      simp [State.dropPending, hall]
    rw [hstate]
    have hle : n ≤ r.state.committedNumber := by
      unfold State.committedNumber
      cases hc : r.state.committed with
      | none => simp [hc] at hall
      | some accepted => simpa [hc] using hall
    have hold : intent.number ∈ r.abandoned := by
      simp only at habandoned
      split at habandoned
      · exact habandoned
      · next hstage =>
        obtain heq | hold := List.mem_cons.1 habandoned
        · have hne := h.unconfirmed n _ hjob hstage
          omega
        · exact hold
    refine (hrecovers intent hintent hold).imp_left fun ⟨m, hm, hlt⟩ => ⟨m, ?_, hlt⟩
    exact Finset.mem_erase.2 ⟨by omega, hm⟩

/-- **A step keeps the invariant, and keeps recovery assured exactly when it confirms no older value than the device
accepted last.** -/
theorem inv_step {r r' : Route T} {e : Event T} (h : Inv r) (hrecovers : r.Recovers) (hstep : r.step e = some r') :
    Inv r' ∧ (r'.Recovers ↔ r.ConfirmsLast e) := by
  cases e with
  | begin value =>
    cases hstep
    refine ⟨inv_begin h value, iff_of_true (fun intent hintent habandoned => ?_) trivial⟩
    exact (hrecovers intent hintent habandoned).imp_left fun ⟨m, hm, hlt⟩ => ⟨m, Finset.mem_insert_of_mem hm, hlt⟩
  | reserve n =>
    simp only [Route.step] at hstep
    split at hstep
    · next value hjob =>
      cases hstep
      exact ⟨inv_goto h hjob (fun hno => (by cases hno)) rfl (fun _ hno => (by cases hno)) _,
        iff_of_true hrecovers trivial⟩
    · cases hstep
  | refuse n =>
    simp only [Route.step] at hstep
    split at hstep
    · next value turn hjob =>
      cases hstep
      exact ⟨inv_goto h hjob (fun hno => (by cases hno)) rfl (fun _ hno => (by cases hno)) _,
        iff_of_true hrecovers trivial⟩
    · cases hstep
  | admission n =>
    simp only [Route.step] at hstep
    split at hstep
    · next value turn hjob =>
      split at hstep
      · next hready =>
        simp only [Bool.and_eq_true, Option.isNone_iff_eq_none] at hready
        cases hstep
        exact ⟨inv_admission h hjob hready.1.1 hready.2, iff_of_true hrecovers trivial⟩
      · cases hstep
    · cases hstep
  | complete n native =>
    simp only [Route.step] at hstep
    split at hstep
    · next value turn hjob =>
      cases hstep
      refine ⟨inv_complete h hjob native _, iff_of_true (fun intent hintent habandoned => ?_) trivial⟩
      simp only at hintent
      split at hintent
      · exact hrecovers intent hintent habandoned
      · cases hintent
        have hnone := (h.gone n habandoned).2
        rw [hjob] at hnone
        cases hnone
    · cases hstep
  | accept n =>
    simp only [Route.step] at hstep
    split at hstep
    · next value hjob =>
      cases hstep
      exact ⟨inv_accept h hjob, recovers_accept h hrecovers hjob⟩
    · cases hstep
  | drop n =>
    simp only [Route.step] at hstep
    split at hstep
    · cases hstep
    · cases hstep
    · cases hstep
    · next value stage _ _ hjob =>
      cases hstep
      exact ⟨inv_drop h hjob, iff_of_true (recovers_drop h hrecovers hjob) trivial⟩
  | scheduleRecovery =>
    cases hstep
    refine ⟨inv_scheduleRecovery h, iff_of_true (fun intent hintent habandoned => ?_) trivial⟩
    unfold State.scheduleRecovery
    split
    · exact hrecovers intent hintent habandoned
    · exact .inr (fun hno => (by cases hno))

/-- **Recovery stays assured in a run exactly when every confirmation that succeeds is of the last value that the device
accepted.** -/
theorem recovers_iff (state : State T) (hpending : state.pending = ∅) (hbounded : state.committedNumber ≤ state.next)
    (events : List (Event T)) :
    EveryState Route.step Route.Recovers { state := state } events ↔
      Along Route.step Route.ConfirmsLast { state := state } events := by
  refine everyState_iff_along_of_inv Inv Route.Recovers Route.ConfirmsLast
    (fun r e r' h hrecovers hstep => inv_step h hrecovers hstep) (fun r e href => ?_) events _
    (inv_start hpending hbounded) (fun _ hno => (by cases hno))
  cases e with
  | accept n =>
    rintro ⟨value, hjob⟩
    simp [Route.step, hjob] at href
  | _ => trivial

/-- A request that is abandoned with its write on the device, and one after it that is confirmed. -/
theorem recovers_iff_confirmed :
    let events : List (Event Nat) := [.begin 5, .reserve 1, .admission 1, .complete 1 .written, .drop 1, .begin 7,
      .reserve 2, .admission 2, .complete 2 .written, .accept 2, .drop 2]
    EveryState Route.step Route.Recovers { state := {} } events ↔
      Along Route.step Route.ConfirmsLast { state := {} } events :=
  recovers_iff {} rfl (Nat.le_refl _) _

/-- The second write is on the device when its request is abandoned; the first request then confirms, and takes the
recovery with it. -/
theorem abandoned_value_stays :
    ¬ ∀ events : List (Event Nat), EveryState Route.step Route.Recovers { state := {} } events := by
  intro h
  have hafter := h [.begin 5, .reserve 1, .admission 1, .complete 1 .written, .begin 7, .reserve 2, .admission 2,
    .complete 2 .written, .drop 2, .accept 1, .drop 1]
  revert hafter
  decide +kernel

end

end DisableKeys
end WriteOrder
end OpenLogi
