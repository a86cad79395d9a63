import Mathlib.Data.List.Induction
import OpenLogi.Lights.Changes
import OpenLogi.Lib.Run
import OpenLogi.Lib.Upsert
/-!
# Reloads — the config reloads the settings app owes the agent

The IPC loop holds every save until the agent has answered a reload of it.  The saves that wait are one reload, at the
revision of the last and with the chosen controls of all, and one verdict of the agent is split over the contexts that
wait on it.
-/
namespace OpenLogi
namespace Desktop

open OpenLogi.Hid (DeviceRoute)
open OpenLogi.Lights (ChosenLight LightControl)

structure DeviceKey where
  id : String
  deriving DecidableEq

structure DisableKeysRequestContext where
  key : DeviceKey
  route : DeviceRoute
  routeGeneration : Nat
  requestId : Nat
  deriving DecidableEq

/-- Correlation scope for a config reload result. -/
inductive ConfigReloadContext where
  | general
  | disableKeys (context : DisableKeysRequestContext)
  | reconciled (requestId : Nat)
  deriving DecidableEq

inductive SavedConfigVerdict where
  | accepted
  | fileChangedAfterSave
  deriving DecidableEq

structure ConfigReloadError where
  message : String
  deriving DecidableEq

abbrev Verdict := Except ConfigReloadError SavedConfigVerdict

variable {Rev : Type}

structure SavedConfig (Rev : Type) where
  revision : Rev
  chosen : List ChosenLight

def savedConfigVerdict [DecidableEq Rev] (saved : SavedConfig Rev) (revision : Rev) : SavedConfigVerdict :=
  if saved.revision = revision then .accepted else .fileChangedAfterSave

/-- The agent's answer to a reload, `read` the revision of the file it loaded or why it loaded none. -/
def reloadSavedConfigWithVerdict [DecidableEq Rev] (saved : SavedConfig Rev) (read : Except ConfigReloadError Rev) :
    Verdict :=
  read.map (savedConfigVerdict saved)

/-- An acknowledgement recipient and the saved revision it needs confirmed. -/
inductive SavedReloadContext (Rev : Type) where
  | general
  | disableKeys (context : DisableKeysRequestContext) (revision : Rev)
  | reconciled (requestId : Nat) (revision : Rev)
  deriving DecidableEq

namespace SavedReloadContext

def context : SavedReloadContext Rev → ConfigReloadContext
  | .general => .general
  | .disableKeys context _ => .disableKeys context
  | .reconciled requestId _ => .reconciled requestId

/-- The revision a transaction waits for; a general save waits for none of its own. -/
def revision : SavedReloadContext Rev → Option Rev
  | .general => none
  | .disableKeys _ revision | .reconciled _ revision => some revision

variable [DecidableEq Rev]

def verdict (c : SavedReloadContext Rev) (submitted : Rev) (outcome : Verdict) : Verdict :=
  match c, outcome with
  | .disableKeys _ revision, .ok .accepted | .reconciled _ revision, .ok .accepted =>
    if revision ≠ submitted then .ok .fileChangedAfterSave else .ok .accepted
  | _, outcome => outcome

theorem accepted_of_verdict {c : SavedReloadContext Rev} {submitted : Rev} {outcome : Verdict}
    (h : c.verdict submitted outcome = .ok .accepted) : outcome = .ok .accepted ∧ ∀ r ∈ c.revision, r = submitted := by
  cases c <;> cases outcome with
  | error e => cases h
  | ok v =>
    cases v <;> simp_all [verdict, revision]

end SavedReloadContext

structure ReloadConfig (Rev : Type) where
  chosen : List ChosenLight
  revision : Rev
  contexts : List (SavedReloadContext Rev)

namespace ReloadConfig

instance [Inhabited Rev] : Inhabited (ReloadConfig Rev) := ⟨⟨[], default, [.general]⟩⟩

def reconciled (requestId : Nat) (revision : Rev) : ReloadConfig Rev := ⟨[], revision, [.reconciled requestId revision]⟩

def trackReconciliation (reload : ReloadConfig Rev) (requestId : Nat) : ReloadConfig Rev :=
  { reload with contexts := reload.contexts ++ [.reconciled requestId reload.revision] }

def disableKeys (context : DisableKeysRequestContext) (revision : Rev) : ReloadConfig Rev :=
  ⟨[], revision, [.disableKeys context revision]⟩

/-- What `ReloadConfig::call` sends. -/
def saved (reload : ReloadConfig Rev) : SavedConfig Rev := ⟨reload.revision, reload.chosen⟩

end ReloadConfig

/-- A context takes the place of the owed one of its identity. -/
def replaceContext (_ context : SavedReloadContext Rev) : SavedReloadContext Rev := context

/-- The chosen controls of a light join the owed ones. -/
def joinLight (owed light : ChosenLight) : ChosenLight :=
  { owed with
    power := owed.power || light.power
    brightness := owed.brightness || light.brightness
    temperature := owed.temperature || light.temperature }

structure OwedReloads (Rev : Type) where
  load : Bool := false
  save : Option (ReloadConfig Rev) := none

/-- `OwedReloads::save`. -/
def OwedReloads.owe [Inhabited Rev] (o : OwedReloads Rev) (reload : ReloadConfig Rev) : OwedReloads Rev :=
  let owed := o.save.getD { (default : ReloadConfig Rev) with contexts := [] }
  { o with
    save := some {
      revision := reload.revision
      contexts := Lib.upserts SavedReloadContext.context replaceContext owed.contexts reload.contexts
      chosen := Lib.upserts ChosenLight.device joinLight owed.chosen reload.chosen } }

structure ConfigReloadResult where
  context : ConfigReloadContext
  result : Verdict

/-- Report the agent's verdict on a held reload.  A reload that did not happen is not one the agent refused. -/
def reportSavedReload [DecidableEq Rev] (contexts : List (SavedReloadContext Rev)) (submitted : Rev) :
    Option Verdict → List ConfigReloadResult
  | none => []
  | some verdict => contexts.map fun context => ⟨context.context, context.verdict submitted verdict⟩

/-- How a call over the link ends: answered, or lost with the link, when the agent may have done what it was asked. -/
inductive Call (α : Type) where
  | answered (done : α)
  | lost (done : Option α)

def Call.answer {α : Type} : Call α → Option α
  | .answered done => some done
  | .lost _ => none

def Call.done {α : Type} : Call α → Option α
  | .answered done => some done
  | .lost done => done

/-- What the loop does that others see: the saves it takes, its calls, and the results it reports. -/
inductive Entry (Rev : Type) where
  | submitted (reload : ReloadConfig Rev)
  | called (saved : SavedConfig Rev) (call : Call (Except ConfigReloadError Rev))
  | told (update : ConfigReloadResult)
  | loadCalled (call : Call (Except ConfigReloadError Unit))
  | loadTold (result : Except ConfigReloadError Unit)

inductive Link where
  | down
  | up
  deriving DecidableEq

/-- `Link::ensure`, where an attempt to connect ends as `connects`. -/
def Link.ensure (connects : Bool) : Link → Link
  | .down => if connects then .up else .down
  | .up => .up

/-- The loop, its log newest first. -/
structure ReloadLoop (Rev : Type) where
  link : Link := .down
  owed : OwedReloads Rev := {}
  running : Bool := true
  log : List (Entry Rev) := []

namespace ReloadLoop

variable [DecidableEq Rev]

/-- The first half of `OwedReloads::deliver`. -/
def deliverSave (l : ReloadLoop Rev) (call : Call (Except ConfigReloadError Rev)) : ReloadLoop Rev :=
  match l.owed.save, l.link with
  | some reload, .up =>
    let verdict := call.answer.map (reloadSavedConfigWithVerdict reload.saved)
    let updates := reportSavedReload reload.contexts reload.revision verdict
    let log := (updates.map Entry.told).reverse ++ .called reload.saved call :: l.log
    match call with
    | .answered _ => { l with owed := { l.owed with save := none }, log }
    | .lost _ => { l with link := .down, log }
  | _, _ => l

/-- The second half of `OwedReloads::deliver`. -/
def deliverLoad (l : ReloadLoop Rev) (call : Call (Except ConfigReloadError Unit)) : ReloadLoop Rev :=
  match l.owed.load, l.link with
  | true, .up =>
    match call with
    | .answered result =>
      { l with owed := { l.owed with load := false }, log := .loadTold result :: .loadCalled call :: l.log }
    | .lost _ => { l with link := .down, log := .loadCalled call :: l.log }
  | _, _ => l

end ReloadLoop

/-- Why the loop woke up.  A device command's own outcome is its own affair: all the loop learns is whether the link
outlived it. -/
inductive Woken (Rev : Type) where
  | observed (arrived : Bool)
  | hungUp
  | reloadConfig (reload : ReloadConfig Rev)
  | loadConfig
  | retryConnection
  | command (linkLost : Bool)
  | reconnect

/-- One turn: what woke the loop, how an attempt to connect would end, and how the calls of `deliver` would. -/
structure Turn (Rev : Type) where
  woken : Woken Rev
  connects : Bool
  save : Call (Except ConfigReloadError Rev)
  load : Call (Except ConfigReloadError Unit)

namespace ReloadLoop

variable [Inhabited Rev]

/-- The arms of the `select!`: an observation needs a link, the reconnect timer runs only without one. -/
def wake (l : ReloadLoop Rev) (connects : Bool) : Woken Rev → Option (ReloadLoop Rev)
  | .observed arrived =>
    if l.link = .up then some { l with link := if arrived then .up else .down } else none
  | .hungUp => some { l with running := false }
  | .reloadConfig reload => some { l with owed := l.owed.owe reload, log := .submitted reload :: l.log }
  | .loadConfig => some { l with owed := { l.owed with load := true } }
  | .retryConnection => some { l with link := l.link.ensure connects }
  | .command linkLost =>
    let link := l.link.ensure connects
    some { l with link := if linkLost then .down else link }
  | .reconnect => if l.link = .down then some { l with link := l.link.ensure connects } else none

/-- A turn of `observe_loop`. -/
def step [DecidableEq Rev] (l : ReloadLoop Rev) (turn : Turn Rev) : Option (ReloadLoop Rev) :=
  if l.running then
    (l.wake turn.connects turn.woken).map fun l =>
      if l.running then (l.deliverSave turn.save).deliverLoad turn.load else l
  else none

end ReloadLoop

/-! ## What the log says -/

/-- The saves no answer has come for, oldest first. -/
def unanswered : List (Entry Rev) → List (ReloadConfig Rev)
  | [] => []
  | .submitted reload :: past => unanswered past ++ [reload]
  | .called _ (.answered _) :: _ => []
  | _ :: past => unanswered past

/-- What the latest submission of a context waits for. -/
def latest (c : ConfigReloadContext) : List (Entry Rev) → Option (SavedReloadContext Rev)
  | [] => none
  | .submitted reload :: past => (reload.contexts.filter fun x => x.context = c).getLast?.or (latest c past)
  | _ :: past => latest c past

/-- The verdicts a context was told since its latest submission. -/
def toldSince (c : ConfigReloadContext) : List (Entry Rev) → Nat
  | [] => 0
  | .submitted reload :: past => if c ∈ reload.contexts.map (·.context) then 0 else toldSince c past
  | .told update :: past => toldSince c past + if update.context = c then 1 else 0
  | _ :: past => toldSince c past

/-- The agent accepted a file at `revision` since the latest submission of a context. -/
def AcceptedSince [DecidableEq Rev] (c : ConfigReloadContext) (revision : Rev) : List (Entry Rev) → Prop
  | [] => False
  | .submitted reload :: past => c ∉ reload.contexts.map (·.context) ∧ AcceptedSince c revision past
  | .called saved call :: past =>
    call.done = some (.ok revision) ∧ savedConfigVerdict saved revision = .accepted ∨ AcceptedSince c revision past
  | _ :: past => AcceptedSince c revision past

/-- The control of a light, among the chosen ones. -/
def chosenControl (light : ChosenLight) : LightControl → Bool
  | .power => light.power
  | .brightness => light.brightness
  | .temperature => light.temperature

def Chosen (chosen : List ChosenLight) (device : String) (control : LightControl) : Prop :=
  ∃ light ∈ chosen, light.device = device ∧ chosenControl light control = true

/-- `saved` stands for the saves of `reloads`: the revision of the last and the chosen controls of all. -/
def StandsFor (saved : SavedConfig Rev) (reloads : List (ReloadConfig Rev)) : Prop :=
  reloads.getLast?.map (·.revision) = some saved.revision ∧ (saved.chosen.map (·.device)).Nodup ∧
    ∀ device control, Chosen saved.chosen device control ↔
      ∃ reload ∈ reloads, Chosen reload.chosen device control

/-- Every reload sent stands for the saves not answered then. -/
def Carries : List (Entry Rev) → Prop
  | [] => True
  | .called saved _ :: past => StandsFor saved (unanswered past) ∧ Carries past
  | _ :: past => Carries past

/-- A transaction told that its save was accepted: the agent accepted a file at the revision its latest submission
waits for. -/
def Backed [DecidableEq Rev] (update : ConfigReloadResult) (past : List (Entry Rev)) : Prop :=
  update.result = .ok .accepted → update.context ≠ .general →
    ∃ revision, (latest update.context past).bind (·.revision) = some revision ∧
      AcceptedSince update.context revision past

def Honest [DecidableEq Rev] : List (Entry Rev) → Prop
  | [] => True
  | .told update :: past => Backed update past ∧ Honest past
  | _ :: past => Honest past

section
variable (updates : List ConfigReloadResult) (past : List (Entry Rev)) (c : ConfigReloadContext)

@[simp] theorem unanswered_told : unanswered (updates.map .told ++ past) = unanswered past := by
  induction updates with
  | nil => rfl
  | cons u us ih => exact ih

@[simp] theorem latest_told : latest c (updates.map .told ++ past) = latest c past := by
  induction updates with
  | nil => rfl
  | cons u us ih => exact ih

@[simp] theorem acceptedSince_told [DecidableEq Rev] (revision : Rev) :
    AcceptedSince c revision (updates.map .told ++ past) ↔ AcceptedSince c revision past := by
  induction updates with
  | nil => exact Iff.rfl
  | cons u us ih => exact ih

@[simp] theorem carries_told : Carries (updates.map .told ++ past) ↔ Carries past := by
  induction updates with
  | nil => exact Iff.rfl
  | cons u us ih => exact ih

theorem toldSince_told : toldSince c (updates.map .told ++ past) =
    toldSince c past + (updates.map (·.context)).count c := by
  induction updates with
  | nil => rfl
  | cons u us ih =>
    rw [List.map_cons, List.cons_append, toldSince, ih, List.map_cons, List.count_cons, Nat.add_assoc]
    by_cases hu : u.context = c <;> simp [hu]

theorem honest_told [DecidableEq Rev] (hb : ∀ u ∈ updates, Backed u past) (h : Honest past) :
    Honest (updates.map .told ++ past) := by
  induction updates with
  | nil => exact h
  | cons u us ih =>
    refine ⟨fun haccepted hcontext => ?_, ih fun v hv => hb v (List.mem_cons_of_mem _ hv)⟩
    obtain ⟨revision, hlatest, hsince⟩ := hb u List.mem_cons_self haccepted hcontext
    exact ⟨revision, (latest_told us past _).symm ▸ hlatest, (acceptedSince_told us past _ revision).2 hsince⟩

end

/-! ## The batch -/

theorem replaceContext_context (x y : SavedReloadContext Rev) (_ : x.context = y.context) :
    (replaceContext x y).context = y.context := rfl

namespace OwedReloads

variable [Inhabited Rev]

/-- The reload that a list of saves is owed as. -/
def batch (reloads : List (ReloadConfig Rev)) : OwedReloads Rev := reloads.foldl owe {}

theorem owe_save_congr {o p : OwedReloads Rev} (h : o.save = p.save) (reload : ReloadConfig Rev) :
    (o.owe reload).save = (p.owe reload).save := by
  unfold owe
  rw [h]

theorem batch_concat (reloads : List (ReloadConfig Rev)) (reload : ReloadConfig Rev) :
    batch (reloads ++ [reload]) = (batch reloads).owe reload := by
  rw [batch, List.foldl_append]
  rfl

/-- **The batch of some saves: the last one's revision, and all their lights and contexts joined by key.** -/
theorem batch_save : ∀ (reloads : List (ReloadConfig Rev)) (reload : ReloadConfig Rev),
    (batch (reloads ++ [reload])).save = some {
      revision := reload.revision
      contexts := Lib.upserts SavedReloadContext.context replaceContext [] ((reloads ++ [reload]).flatMap (·.contexts))
      chosen := Lib.upserts ChosenLight.device joinLight [] ((reloads ++ [reload]).flatMap (·.chosen)) } := by
  intro reloads
  induction reloads using List.reverseRecOn with
  | nil =>
    intro reload
    rw [List.nil_append, List.flatMap_singleton, List.flatMap_singleton]
    rfl
  | append_singleton reloads last ih =>
    intro reload
    have hall : ∀ {β : Type} (f : ReloadConfig Rev → List β),
        (reloads ++ [last] ++ [reload]).flatMap f = (reloads ++ [last]).flatMap f ++ f reload := by
      intro β f
      rw [List.flatMap_append, List.flatMap_singleton]
    rw [batch_concat, owe, ih last, hall, hall, Lib.upserts_append, Lib.upserts_append]
    rfl

theorem joinLight_device (owed light : ChosenLight) (_ : owed.device = light.device) :
    (joinLight owed light).device = light.device := by
  assumption

theorem chosenControl_joinLight (owed light : ChosenLight) (control : LightControl) :
    chosenControl (joinLight owed light) control = true ↔
      chosenControl owed control = true ∨ chosenControl light control = true := by
  cases control <;> exact Bool.or_eq_true _ _ ▸ Iff.rfl

/-- **The batch stands for its saves.** -/
theorem standsFor_batch {reloads : List (ReloadConfig Rev)} {reload : ReloadConfig Rev}
    (h : (batch reloads).save = some reload) : StandsFor reload.saved reloads := by
  induction reloads using List.reverseRecOn with
  | nil => cases h
  | append_singleton reloads last =>
    rw [batch_save, Option.some.injEq] at h
    subst h
    refine ⟨by simp [ReloadConfig.saved], Lib.nodup_upserts joinLight_device _ (by simp), fun device control => ?_⟩
    refine (Lib.exists_mem_upserts joinLight_device (p := fun light => chosenControl light control = true)
      (fun x y _ => chosenControl_joinLight x y control) device _ []).trans ?_
    simp only [List.not_mem_nil, false_and, exists_false, false_or, List.mem_flatMap]
    constructor
    · rintro ⟨light, ⟨reload, hreload, hlight⟩, hc⟩
      exact ⟨reload, hreload, light, hlight, hc⟩
    · rintro ⟨reload, hreload, light, hlight, hc⟩
      exact ⟨light, ⟨reload, hreload, hlight⟩, hc⟩

/-- A context still has its verdict coming. -/
def owes (o : OwedReloads Rev) (c : ConfigReloadContext) : Bool :=
  o.save.any fun reload => decide (c ∈ reload.contexts.map (·.context))

theorem owes_owe (o : OwedReloads Rev) (reload : ReloadConfig Rev) (c : ConfigReloadContext) :
    (o.owe reload).owes c = (o.owes c || decide (c ∈ reload.contexts.map (·.context))) := by
  have hkeys := Lib.mem_keys_upserts replaceContext_context c reload.contexts
  unfold owes owe
  cases o.save with
  | none => exact decide_eq_decide.2 ((hkeys []).trans (or_iff_right (List.not_mem_nil)))
  | some owed => exact (decide_eq_decide.2 (hkeys owed.contexts)).trans (Bool.decide_or _ _)

end OwedReloads

/-- **The last context among the unanswered saves is the latest submission of its identity.** -/
theorem latest_of_unanswered {c : ConfigReloadContext} {x : SavedReloadContext Rev} : ∀ log : List (Entry Rev),
    (((unanswered log).flatMap (·.contexts)).filter fun x => x.context = c).getLast? = some x →
      latest c log = some x
  | [], h => by cases h
  | .submitted reload :: past, h => by
    rw [unanswered, List.flatMap_append, List.flatMap_singleton, List.filter_append, List.getLast?_append] at h
    rw [latest]
    cases hlast : (reload.contexts.filter fun x => x.context = c).getLast? with
    | some y => rwa [hlast] at h
    | none =>
      rw [hlast] at h
      exact latest_of_unanswered past h
  | .called _ (.answered _) :: _, h => by cases h
  | .called _ (.lost _) :: past, h => latest_of_unanswered past h
  | .told _ :: past, h => latest_of_unanswered past h
  | .loadCalled _ :: past, h => latest_of_unanswered past h
  | .loadTold _ :: past, h => latest_of_unanswered past h

/-! ## Every turn keeps the account -/

namespace ReloadLoop

variable [Inhabited Rev] [DecidableEq Rev]

structure Inv (l : ReloadLoop Rev) : Prop where
  batch : l.owed.save = (OwedReloads.batch (unanswered l.log)).save
  carries : Carries l.log
  told : ∀ c, toldSince c l.log = if (latest c l.log).isSome ∧ l.owed.owes c = false then 1 else 0
  honest : Honest l.log

variable {l l' : ReloadLoop Rev} {reload : ReloadConfig Rev}

theorem Inv.congr (hi : l.Inv) (hsave : l'.owed.save = l.owed.save) (hlog : l'.log = l.log) :
    l'.Inv := by
  refine ⟨?_, ?_, fun c => ?_, ?_⟩
  · rw [hsave, hlog, hi.batch]
  · rw [hlog]
    exact hi.carries
  · rw [OwedReloads.owes, hsave, hlog]
    exact hi.told c
  · rw [hlog]
    exact hi.honest

/-- The owed contexts: one row to an identity, which is what its latest submission waits for. -/
theorem Inv.owed (hi : l.Inv) (h : l.owed.save = some reload) :
    (reload.contexts.map (·.context)).Nodup ∧ ∀ x ∈ reload.contexts, latest x.context l.log = some x := by
  rw [hi.batch] at h
  cases hlog : unanswered l.log using List.reverseRecOn with
  | nil =>
    rw [hlog] at h
    cases h
  | append_singleton reloads last =>
    rw [hlog, OwedReloads.batch_save, Option.some.injEq] at h
    subst h
    have hnodup := Lib.nodup_upserts replaceContext_context
      ((reloads ++ [last]).flatMap (·.contexts)) (l := []) (by simp)
    refine ⟨hnodup, fun x hx => latest_of_unanswered l.log ?_⟩
    have hrow := Lib.rowOf_of_mem hnodup hx
    rw [Lib.rowOf_upserts replaceContext_context] at hrow
    rw [hlog]
    exact Option.or_none.symm.trans ((Lib.foldl_joined_last none _).symm.trans hrow)

theorem Inv.submitted (hi : l.Inv) (reload : ReloadConfig Rev) :
    Inv { l with owed := l.owed.owe reload, log := .submitted reload :: l.log } := by
  refine ⟨?_, hi.carries, fun c => ?_, hi.honest⟩
  · rw [unanswered, OwedReloads.batch_concat]
    exact OwedReloads.owe_save_congr hi.batch reload
  · rw [toldSince, latest, OwedReloads.owes_owe]
    by_cases hc : c ∈ reload.contexts.map (·.context)
    · rw [if_pos hc, decide_eq_true hc, Bool.or_true, if_neg (by simp)]
    · have hnone : (reload.contexts.filter fun x => x.context = c).getLast? = none := by
        rw [List.getLast?_eq_none_iff, List.filter_eq_nil_iff]
        intro x hx hxc
        exact hc (List.mem_map.2 ⟨x, hx, of_decide_eq_true hxc⟩)
      rw [if_neg hc, hnone, Option.none_or, decide_eq_false hc, Bool.or_false]
      exact hi.told c

/-- The call of the batch that waits, whatever becomes of it, stands for the saves that wait. -/
theorem Inv.called (hi : l.Inv) (h : l.owed.save = some reload) (call : Call (Except ConfigReloadError Rev)) :
    Carries (.called reload.saved call :: l.log) :=
  ⟨OwedReloads.standsFor_batch (hi.batch ▸ h), hi.carries⟩

/-- **The verdict split over its contexts**: a transaction is told of its own revision only. -/
theorem Inv.backed (hi : l.Inv) (h : l.owed.save = some reload) (read : Except ConfigReloadError Rev)
    {x : SavedReloadContext Rev} (hx : x ∈ reload.contexts) :
    Backed ⟨x.context, x.verdict reload.revision (reloadSavedConfigWithVerdict reload.saved read)⟩
      (.called reload.saved (.answered read) :: l.log) := by
  intro haccepted hcontext
  obtain ⟨hverdict, hrevision⟩ := SavedReloadContext.accepted_of_verdict haccepted
  have hread : read = .ok reload.revision := by
    cases read with
    | error e => cases hverdict
    | ok r =>
      have hsaved : savedConfigVerdict reload.saved r = .accepted := Except.ok.inj hverdict
      unfold savedConfigVerdict at hsaved
      split at hsaved
      · rename_i hr
        exact congrArg Except.ok hr.symm
      · cases hsaved
  obtain ⟨r, hr⟩ : ∃ r, x.revision = some r := by
    cases x with
    | general => exact absurd rfl hcontext
    | disableKeys _ r => exact ⟨r, rfl⟩
    | reconciled _ r => exact ⟨r, rfl⟩
  obtain rfl := hrevision r hr
  refine ⟨reload.revision, ?_, Or.inl ⟨congrArg some hread, if_pos rfl⟩⟩
  exact (congrArg (Option.bind · _) ((hi.owed h).2 x hx)).trans hr

theorem Inv.answered (hi : l.Inv) (h : l.owed.save = some reload) (read : Except ConfigReloadError Rev)
    (updates : List ConfigReloadResult) (hupdates : updates = (reportSavedReload reload.contexts reload.revision
      (some (reloadSavedConfigWithVerdict reload.saved read))).reverse) :
    Inv { l with
      owed := { l.owed with save := none }
      log := updates.map .told ++ .called reload.saved (.answered read) :: l.log } := by
  refine ⟨?_, ?_, fun c => ?_, ?_⟩
  · rw [unanswered_told]
    rfl
  · rw [carries_told]
    exact hi.called h _
  · have hcount : (updates.map (·.context)).count c = if l.owed.owes c then 1 else 0 := by
      rw [hupdates, List.map_reverse, List.count_reverse, OwedReloads.owes, h, Option.any_some]
      have hcontexts : (reportSavedReload reload.contexts reload.revision
          (some (reloadSavedConfigWithVerdict reload.saved read))).map (·.context) =
            reload.contexts.map (·.context) := by
        rw [reportSavedReload, List.map_map]
        rfl
      rw [hcontexts, (hi.owed h).1.count]
      simp only [decide_eq_true_eq]
    have hlatest : l.owed.owes c = true → (latest c l.log).isSome := by
      rw [OwedReloads.owes, h, Option.any_some, decide_eq_true_eq, List.mem_map]
      rintro ⟨x, hx, rfl⟩
      rw [(hi.owed h).2 x hx]
      rfl
    have htold := hi.told c
    have hnone : ({ l.owed with save := none } : OwedReloads Rev).owes c = false := rfl
    rw [toldSince_told, latest_told, hcount, hnone]
    simp only [toldSince, latest, htold, and_true]
    by_cases howes : l.owed.owes c = true
    · rw [if_neg (by simp [howes]), if_pos howes, if_pos (hlatest howes)]
    · simp only [Bool.eq_false_iff.2 howes, and_true, Bool.false_eq_true, if_false, Nat.add_zero]
  · refine honest_told _ _ (fun u hu => ?_) hi.honest
    rw [hupdates, List.mem_reverse] at hu
    obtain ⟨x, hx, rfl⟩ := List.mem_map.1 hu
    exact hi.backed h read hx

theorem Inv.deliverSave (hi : l.Inv) (call : Call (Except ConfigReloadError Rev)) :
    (l.deliverSave call).Inv := by
  unfold ReloadLoop.deliverSave
  split
  · rename_i reload hsave hlink
    cases call with
    | answered read =>
      refine (hi.answered hsave read _ rfl).congr rfl ?_
      rw [List.map_reverse]
      rfl
    | lost done => exact ⟨hi.batch, hi.called hsave _, hi.told, hi.honest⟩
  · exact hi

theorem Inv.deliverLoad (hi : l.Inv) (call : Call (Except ConfigReloadError Unit)) :
    (l.deliverLoad call).Inv := by
  unfold ReloadLoop.deliverLoad
  split
  · cases call with
    | answered result => exact ⟨hi.batch, hi.carries, hi.told, hi.honest⟩
    | lost done => exact ⟨hi.batch, hi.carries, hi.told, hi.honest⟩
  · exact hi

theorem Inv.wake (hi : l.Inv) {connects : Bool} {woken : Woken Rev} (h : l.wake connects woken = some l') : l'.Inv := by
  cases woken with
  | reloadConfig reload =>
    cases h
    exact hi.submitted reload
  | observed arrived | reconnect =>
    simp only [ReloadLoop.wake] at h
    split at h
    · cases h
      exact hi.congr rfl rfl
    · cases h
  | hungUp | loadConfig | retryConnection | command linkLost =>
    cases h
    exact hi.congr rfl rfl

omit [Inhabited Rev] in
/-- **What a delivery leaves owed waits for a link.** -/
theorem deliver_waits (l : ReloadLoop Rev) (save : Call (Except ConfigReloadError Rev))
    (load : Call (Except ConfigReloadError Unit)) (h : ((l.deliverSave save).deliverLoad load).link = .up) :
    ((l.deliverSave save).deliverLoad load).owed = {} := by
  obtain ⟨link, ⟨owedLoad, owedSave⟩, running, log⟩ := l
  cases link with
  | down => cases owedSave <;> cases owedLoad <;> cases h
  | up =>
    cases owedSave with
    | none =>
      cases owedLoad with
      | false => rfl
      | true =>
        cases load with
        | answered result => rfl
        | lost done => cases h
    | some reload =>
      cases save with
      | lost done => cases owedLoad <;> cases h
      | answered read =>
        cases owedLoad with
        | false => rfl
        | true =>
          cases load with
          | answered result => rfl
          | lost done => cases h

omit [Inhabited Rev] in
/-- A delivery whose calls are answered keeps the link. -/
theorem deliver_answered (hup : l.link = .up) (read : Except ConfigReloadError Rev) (result : Except ConfigReloadError Unit) :
    ((l.deliverSave (.answered read)).deliverLoad (.answered result)).link = .up := by
  obtain ⟨link, ⟨owedLoad, owedSave⟩, running, log⟩ := l
  cases hup
  cases owedSave <;> cases owedLoad <;> rfl

/-- The turn finds a link, and its calls are answered. -/
def Turn.Answered (turn : Turn Rev) (l : ReloadLoop Rev) : Prop :=
  ∃ woke read result, l.wake turn.connects turn.woken = some woke ∧ woke.running = true ∧ woke.link = .up ∧
    turn.save = .answered read ∧ turn.load = .answered result

/-- What holds between two turns. -/
structure Accounted (l : ReloadLoop Rev) : Prop where
  carries : Carries l.log
  told : ∀ c, (latest c l.log).isSome → toldSince c l.log = if l.owed.owes c then 0 else 1
  honest : Honest l.log
  waits : l.link = .up → l.owed = {}
  delivers : ∀ turn l', Turn.Answered turn l → l.step turn = some l' →
    l'.owed = {} ∧ ∀ c, (latest c l'.log).isSome → toldSince c l'.log = 1

theorem Inv.told_once (hi : l.Inv) (c : ConfigReloadContext) (hc : (latest c l.log).isSome) :
    toldSince c l.log = if l.owed.owes c then 0 else 1 := by
  rw [hi.told c]
  by_cases howes : l.owed.owes c = true
  · rw [if_pos howes, if_neg (by simp [howes])]
  · rw [if_neg howes, if_pos ⟨hc, Bool.eq_false_iff.2 howes⟩]

omit [DecidableEq Rev] in
/-- Only the hang-up ends the loop, and it moves nothing. -/
theorem wake_stopped (hrunning : l.running = true) {connects : Bool} {woken : Woken Rev}
    (h : l.wake connects woken = some l') (hstopped : ¬l'.running = true) : l'.link = l.link ∧ l'.owed = l.owed := by
  cases woken with
  | hungUp =>
    cases h
    exact ⟨rfl, rfl⟩
  | observed arrived | reconnect =>
    simp only [ReloadLoop.wake] at h
    split at h
    · cases h
      exact absurd hrunning hstopped
    · cases h
  | reloadConfig reload | loadConfig | retryConnection | command linkLost =>
    cases h
    exact absurd hrunning hstopped

theorem inv_step (hi : l.Inv ∧ (l.link = .up → l.owed = {})) {turn : Turn Rev} (h : l.step turn = some l') :
    l'.Inv ∧ (l'.link = .up → l'.owed = {}) := by
  unfold step at h
  split at h
  · obtain ⟨woke, hwoke, rfl⟩ := Option.map_eq_some_iff.1 h
    split
    · exact ⟨((hi.1.wake hwoke).deliverSave _).deliverLoad _, deliver_waits woke _ _⟩
    · rename_i hstopped
      obtain ⟨hlink, howed⟩ := wake_stopped ‹_› hwoke hstopped
      rw [hlink, howed]
      exact ⟨hi.1.wake hwoke, hi.2⟩
  · cases h

theorem Inv.accounted (hi : l.Inv) (hwaits : l.link = .up → l.owed = {}) : l.Accounted := by
  refine ⟨hi.carries, hi.told_once, hi.honest, hwaits, fun turn l' hanswered h => ?_⟩
  obtain ⟨hi', hwaits'⟩ := inv_step ⟨hi, hwaits⟩ h
  have howed : l'.owed = {} := by
    refine hwaits' ?_
    obtain ⟨woke, read, result, hwake, hrunning, hup, hsave, hload⟩ := hanswered
    unfold step at h
    split at h
    · rw [hwake, Option.map_some, if_pos hrunning, hsave, hload] at h
      cases h
      exact deliver_answered hup read result
    · cases h
  refine ⟨howed, fun c hc => ?_⟩
  rw [hi'.told_once c hc, howed]
  rfl

/-- **Every run of the loop keeps the account**: each reload sent stands for exactly the saves not answered then, a
context is told once of its latest submission unless that is still owed, which it is only without a link, and a
transaction told that its save was accepted is told so of a file at its own revision that the agent accepted.  A turn
with a link whose calls are answered owes nobody anything. -/
theorem reloads_accounted (turns : List (Turn Rev)) : Lib.EveryState step Accounted ({} : ReloadLoop Rev) turns := by
  intro pre l' _ hrun
  have hinit : Inv ({} : ReloadLoop Rev) ∧ (({} : ReloadLoop Rev).link = .up → ({} : ReloadLoop Rev).owed = {}) :=
    ⟨⟨rfl, trivial, fun _ => rfl, trivial⟩, fun h => nomatch h⟩
  have hinv := Lib.run_inv (fun l : ReloadLoop Rev => l.Inv ∧ (l.link = .up → l.owed = {}))
    (fun _ _ _ hi h => inv_step hi h) pre _ _ hinit hrun
  exact hinv.1.accounted hinv.2

end ReloadLoop

end Desktop
end OpenLogi
