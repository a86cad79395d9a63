import OpenLogi.Lib.Run
import OpenLogi.Session.Reporting
/-!
# HostKeys — the diversion of the Easy-Switch keys

Host-switch sessions on one keyboard.  A session reads the reporting of its host keys, arms them one by one, and owes
what it read until a restore lands on a channel that is still current; one that dies forgets what it owed.  What a dead
session left diverted its successor reads as found, so that the keys free after a restore are exactly those no session
died on.
-/
namespace OpenLogi
namespace Session

open Lib

inductive ReportingMode where
  | diverted
  | analytics
  deriving DecidableEq

/-- A host key that a session arms, and the reporting it restores the key to. -/
structure ArmedControl where
  cid : UInt16
  host : UInt8
  mode : ReportingMode
  original : CidReporting
  deriving DecidableEq

def hostControlIds : List (UInt16 × UInt8) := [(0xD1, 0), (0xD2, 1), (0xD3, 2)]

def hostTaskIds : List (UInt16 × UInt8) := [(0xAE, 0), (0xAF, 1), (0xB0, 2)]

def hostChannel (info : CtrlIdInfo) : Option UInt8 :=
  (hostControlIds.findSome? fun (cid, host) => if info.cid = cid then some host else none).or
    (hostTaskIds.findSome? fun (task, host) => if info.taskId = task then some host else none)

def hostMode (info : CtrlIdInfo) : Option ReportingMode :=
  if info.isDivertable then some .diverted else if info.supportsAnalyticsEvents then some .analytics else none

/-- The host keys of the table, each with the reporting it has before the session arms it. -/
def readHostControls (fw : Firmware) (table : List CtrlIdInfo) : List ArmedControl :=
  table.filterMap fun info =>
    (hostChannel info).bind fun host => (hostMode info).map fun mode => ⟨info.cid, host, mode, fw info.cid⟩

/-- The write that arms a host key; `divert_cid` turns raw XY off. -/
def armingChange (control : ArmedControl) : CidReportingChange :=
  match control.mode with
  | .diverted => { diverted := some true, rawXy := some false }
  | .analytics => { analyticsKeyEvents := some true }

def restorationChange (control : ArmedControl) : CidReportingChange :=
  match control.mode with
  | .diverted => { diverted := some control.original.diverted, rawXy := some control.original.rawXy }
  | .analytics => { analyticsKeyEvents := some control.original.analyticsKeyEvents }

/-- `restore_host_control`, tried twice; whether one of the tries was acknowledged. -/
def restoreHostControl (fw : Firmware) (control : ArmedControl) (first second : WriteEnd) : Bool × Firmware :=
  let fw := fw.write control.cid (restorationChange control) first
  if first.isOk then (true, fw)
  else (second.isOk, fw.write control.cid (restorationChange control) second)

inductive RetiredChannelPolicy where
  | replacementOnly
  | currentAllowed
  deriving DecidableEq

/-- Firmware ownership that survives the channel that armed it. -/
structure PendingRestore where
  retiredChannel : Nat
  retiredPolicy : RetiredChannelPolicy
  plan : List ArmedControl

/-- Whether a retry may write on the channel the registry publishes now.  The retired channel is known only while it is
open. -/
def PendingRestore.mayWriteOn (pending : PendingRestore) (current : Nat) (retiredOpen : Bool) : Bool :=
  !(pending.retiredPolicy = .replacementOnly && retiredOpen && current = pending.retiredChannel)

/-! ## Sessions on a keyboard -/

inductive Phase where
  | idle
  | arming (channel : Nat) (todo armed : List ArmedControl)
  | active (channel : Nat) (armed : List ArmedControl)
  | owing (pending : PendingRestore)
  | restoring (pending : PendingRestore) (todo : List ArmedControl) (complete : Bool)

/-- The host keys a session has written or may have written. -/
def Phase.armed : Phase → List ArmedControl
  | .idle => []
  | .arming _ _ armed | .active _ armed => armed
  | .owing pending | .restoring pending _ _ => pending.plan

structure Keyboard where
  fw : Firmware
  phase : Phase
  /-- What the last session armed, once its restoration has completed. -/
  restored : Option (List ArmedControl)
  /-- The keys that stood diverted in the firmware when a session that had armed them died. -/
  abandoned : List UInt16

inductive Event where
  /-- A session reads its host keys; one that cannot read them writes nothing. -/
  | begin (channel : Nat) (table : List CtrlIdInfo)
  /-- The next host key is armed; a failure ends the session, which owes what it armed under this policy. -/
  | arm (e : WriteEnd) (policy : RetiredChannelPolicy)
  | stop (policy : RetiredChannelPolicy)
  /-- A retry looks up the channel that is current. -/
  | retry (current : Option Nat) (retiredOpen : Bool)
  | restore (first second : WriteEnd)
  /-- The retry ends, with its channel still current or not. -/
  | finish (isCurrent : Bool)
  /-- The process of the session dies, with the write in flight applied or not. -/
  | die (applied : Bool)
  deriving DecidableEq

namespace Keyboard

/-- `PendingHostSwitchRestore::new`: nothing is owed for nothing armed. -/
def owe (k : Keyboard) (channel : Nat) (policy : RetiredChannelPolicy) (armed : List ArmedControl) : Keyboard :=
  if armed.isEmpty then { k with phase := .idle, restored := some [] }
  else { k with phase := .owing ⟨channel, policy, armed⟩ }

/-- Arming until no host key is left. -/
def armNext (k : Keyboard) (channel : Nat) (todo armed : List ArmedControl) : Keyboard :=
  { k with phase := if todo.isEmpty then .active channel armed else .arming channel todo armed }

/-- The firmware once the write in flight has been applied or lost, and the host keys written by then. -/
def inFlight (k : Keyboard) (applied : Bool) : Firmware × List ArmedControl :=
  match k.phase with
  | .arming _ (control :: _) armed =>
    (k.fw.write control.cid (armingChange control) (.failed applied), armed ++ [control])
  | .restoring pending (control :: _) _ =>
    (k.fw.write control.cid (restorationChange control) (.failed applied), pending.plan)
  | phase => (k.fw, phase.armed)

def die (k : Keyboard) (applied : Bool) : Keyboard :=
  let (fw, armed) := k.inFlight applied
  { fw
    phase := .idle
    restored := none
    abandoned := (armed.filter fun control => (fw control.cid).diverted).map (·.cid) ++ k.abandoned }

end Keyboard

def step (k : Keyboard) : Event → Option Keyboard
  | .begin channel table =>
    match k.phase with
    | .idle => some ({ k with restored := none }.armNext channel (readHostControls k.fw table) [])
    | _ => none
  | .arm e policy =>
    match k.phase with
    | .arming channel (control :: todo) armed =>
      -- recorded before the write: a failed one may have been applied
      let armed := armed ++ [control]
      let k := { k with fw := k.fw.write control.cid (armingChange control) e }
      some (if e.isOk then k.armNext channel todo armed else k.owe channel policy armed)
    | _ => none
  | .stop policy =>
    match k.phase with
    | .active channel armed => some (k.owe channel policy armed)
    | _ => none
  | .retry current retiredOpen =>
    match k.phase, current with
    | .owing pending, some current =>
      some (if pending.mayWriteOn current retiredOpen then { k with phase := .restoring pending pending.plan true }
        else k)
    | .owing _, none => some k
    | _, _ => none
  | .restore first second =>
    match k.phase with
    | .restoring pending (control :: todo) complete =>
      let (ok, fw) := restoreHostControl k.fw control first second
      some { k with fw, phase := .restoring pending todo (complete && ok) }
    | _ => none
  | .finish isCurrent =>
    match k.phase with
    | .restoring pending [] complete =>
      some (if complete && isCurrent then { k with phase := .idle, restored := some pending.plan }
        else { k with phase := .owing pending })
    | _ => none
  | .die applied =>
    match k.phase with
    | .idle => none
    | _ => some (k.die applied)

/-- Before the first session. -/
def start (fw : Firmware) : Keyboard := ⟨fw, .idle, none, []⟩

/-- Once the last session's restoration has completed, a host key it armed is diverted only if it was before the first
session. -/
def HostKeysFree (before : Firmware) (k : Keyboard) : Prop :=
  ∀ armed ∈ k.restored, ∀ control ∈ armed, (k.fw control.cid).diverted = true → (before control.cid).diverted = true

/-- No session died on a host key of the last session and left it diverted that was not diverted before the first one.
-/
def NoneAbandoned (before : Firmware) (k : Keyboard) : Prop :=
  ∀ armed ∈ k.restored, ∀ control ∈ armed, control.cid ∈ k.abandoned → (before control.cid).diverted = true

/-! ### What every run keeps -/

section Invariant

variable (before : Firmware)

/-- Whether a key is diverted between sessions: it was before the first, or a session died on it. -/
def Left (k : Keyboard) (cid : UInt16) : Prop := (before cid).diverted = true ∨ cid ∈ k.abandoned

/-- A control of this list diverts the key. -/
def DivertedBy (controls : List ArmedControl) (cid : UInt16) : Prop :=
  ∃ control ∈ controls, control.cid = cid ∧ control.mode = .diverted

/-- The host keys of the session that are not written yet. -/
def Phase.todo : Phase → List ArmedControl
  | .arming _ todo _ => todo
  | _ => []

/-- The host keys that may still be diverted for the session. -/
def Phase.held : Phase → List ArmedControl
  | .restoring _ todo true => todo
  | phase => phase.armed

/-- What was left diverted is diverted, nothing else is but for the session, and the session found each key as it was
left. -/
structure Inv (k : Keyboard) : Prop where
  kept : ∀ cid, Left before k cid → (k.fw cid).diverted = true
  only : ∀ cid, (k.fw cid).diverted = true → Left before k cid ∨ DivertedBy k.phase.held cid
  found : ∀ control ∈ k.phase.armed ++ k.phase.todo,
    control.original.diverted = true ↔ Left before k control.cid
  rest : ∀ pending todo complete, k.phase = .restoring pending todo complete → ∀ control ∈ todo, control ∈ pending.plan
  idle : k.restored.isSome → k.phase = .idle

variable {before} {k : Keyboard}

theorem DivertedBy.mono {xs ys : List ArmedControl} (h : ∀ control ∈ xs, control ∈ ys) {cid : UInt16}
    (hd : DivertedBy xs cid) : DivertedBy ys cid :=
  let ⟨control, hmem, hrest⟩ := hd
  ⟨control, h control hmem, hrest⟩

theorem inv_start (fw : Firmware) : Inv fw (start fw) :=
  ⟨fun _ h => h.elim id fun h => absurd h List.not_mem_nil, fun _ h => .inl (.inl h),
    fun _ h => absurd h List.not_mem_nil, fun _ _ _ h => (by cases h), fun _ => rfl⟩

/-! The write of a host key -/

/-- Arming diverts the key or leaves it. -/
theorem diverted_arming (fw : Firmware) (control : ArmedControl) (e : WriteEnd) (cid : UInt16) :
    ((fw.write control.cid (armingChange control) e) cid).diverted = (fw cid).diverted ∨
      cid = control.cid ∧ control.mode = .diverted ∧
        ((fw.write control.cid (armingChange control) e) cid).diverted = true := by
  cases hm : control.mode with
  | analytics => exact .inl (fw.diverted_write_none _ _ (by simp [armingChange, hm]) e)
  | diverted =>
    by_cases h : cid = control.cid
    · subst h
      rw [fw.diverted_write]
      cases e.applied with
      | true => exact .inr ⟨rfl, rfl, by simp [armingChange, hm]⟩
      | false => exact .inl rfl
    · exact .inl (by rw [fw.write_of_ne h])

/-- A restoring write puts the key back as it was found or leaves it. -/
theorem diverted_restoring (fw : Firmware) (control : ArmedControl) (e : WriteEnd) (cid : UInt16) :
    ((fw.write control.cid (restorationChange control) e) cid).diverted = (fw cid).diverted ∨
      cid = control.cid ∧ control.mode = .diverted ∧
        ((fw.write control.cid (restorationChange control) e) cid).diverted = control.original.diverted := by
  cases hm : control.mode with
  | analytics => exact .inl (fw.diverted_write_none _ _ (by simp [restorationChange, hm]) e)
  | diverted =>
    by_cases h : cid = control.cid
    · subst h
      rw [fw.diverted_write]
      cases e.applied with
      | true => exact .inr ⟨rfl, rfl, by simp [restorationChange, hm]⟩
      | false => exact .inl rfl
    · exact .inl (by rw [fw.write_of_ne h])

/-- An acknowledged one puts it back. -/
theorem diverted_restored (fw : Firmware) (control : ArmedControl) (hm : control.mode = .diverted) :
    ((fw.write control.cid (restorationChange control) .acknowledged) control.cid).diverted =
      control.original.diverted := by
  rw [fw.diverted_write]
  simp [WriteEnd.applied, restorationChange, hm]

/-- The two tries of a restore. -/
theorem restoreHostControl_spec (fw : Firmware) (control : ArmedControl) (first second : WriteEnd) :
    let out := restoreHostControl fw control first second
    (∀ cid, (out.2 cid).diverted = (fw cid).diverted ∨
      cid = control.cid ∧ control.mode = .diverted ∧ (out.2 cid).diverted = control.original.diverted) ∧
    (out.1 = true → control.mode = .diverted → (out.2 control.cid).diverted = control.original.diverted) := by
  intro out
  cases first with
  | acknowledged =>
    exact ⟨diverted_restoring fw control _, fun _ hm => diverted_restored fw control hm⟩
  | failed applied =>
    refine ⟨fun cid => ?_, fun hok hm => ?_⟩
    · obtain h | h := diverted_restoring (fw.write control.cid (restorationChange control) (.failed applied)) control
        second cid
      · obtain h' | ⟨hcid, hm, h'⟩ := diverted_restoring fw control (.failed applied) cid
        · exact .inl (h.trans h')
        · exact .inr ⟨hcid, hm, h.trans h'⟩
      · exact .inr h
    · cases second with
      | acknowledged => exact diverted_restored _ control hm
      | failed _ => exact absurd hok (by simp [out, restoreHostControl, WriteEnd.isOk])

/-! What one step keeps -/

/-- The part of the invariant about the firmware, for host keys that may be diverted and host keys the session has
read. -/
structure Holds (before : Firmware) (k : Keyboard) (fw : Firmware) (held read : List ArmedControl) : Prop where
  kept : ∀ cid, Left before k cid → (fw cid).diverted = true
  only : ∀ cid, (fw cid).diverted = true → Left before k cid ∨ DivertedBy held cid
  found : ∀ control ∈ read, control.original.diverted = true ↔ Left before k control.cid

theorem Inv.holds (hi : Inv before k) : Holds before k k.fw k.phase.held (k.phase.armed ++ k.phase.todo) :=
  ⟨hi.kept, hi.only, hi.found⟩

variable {fw : Firmware} {held read todo : List ArmedControl} {control : ArmedControl}

theorem Holds.mono {held' read' : List ArmedControl} (h : Holds before k fw held read)
    (hheld : ∀ control ∈ held, control ∈ held') (hread : ∀ control ∈ read', control ∈ read) :
    Holds before k fw held' read' :=
  ⟨h.kept, fun cid hd => (h.only cid hd).imp_right (DivertedBy.mono hheld), fun control hc =>
    h.found control (hread control hc)⟩

/-- The next host key is armed. -/
theorem Holds.arm (h : Holds before k fw held read) (control : ArmedControl) (e : WriteEnd) :
    Holds before k (fw.write control.cid (armingChange control) e) (held ++ [control]) read := by
  refine ⟨fun cid hl => ?_, fun cid hd => ?_, h.found⟩
  · obtain heq | ⟨-, -, htrue⟩ := diverted_arming fw control e cid
    · rw [heq]
      exact h.kept cid hl
    · exact htrue
  · obtain heq | ⟨rfl, hm, -⟩ := diverted_arming fw control e cid
    · exact (h.only cid (heq ▸ hd)).imp_right (DivertedBy.mono fun _ => List.mem_append_left _)
    · exact .inr ⟨control, List.mem_append_right _ (List.mem_singleton.2 rfl), rfl, hm⟩

/-- A host key that was read is written back, or not. -/
theorem Holds.restore {fw' : Firmware} (h : Holds before k fw held read) (hmem : control ∈ read)
    (hfw : ∀ cid, (fw' cid).diverted = (fw cid).diverted ∨
      cid = control.cid ∧ control.mode = .diverted ∧ (fw' cid).diverted = control.original.diverted) :
    Holds before k fw' held read := by
  refine ⟨fun cid hl => ?_, fun cid hd => ?_, h.found⟩
  · obtain heq | ⟨rfl, -, heq⟩ := hfw cid
    · rw [heq]
      exact h.kept cid hl
    · rw [heq]
      exact (h.found control hmem).2 hl
  · obtain heq | ⟨rfl, -, heq⟩ := hfw cid
    · exact h.only cid (heq ▸ hd)
    · exact .inl ((h.found control hmem).1 (heq ▸ hd))

/-- A host key whose restore was acknowledged is the session's no longer. -/
theorem Holds.restored {fw' : Firmware} (h : Holds before k fw (control :: todo) read) (hmem : control ∈ read)
    (hfw : ∀ cid, (fw' cid).diverted = (fw cid).diverted ∨
      cid = control.cid ∧ control.mode = .diverted ∧ (fw' cid).diverted = control.original.diverted)
    (hback : control.mode = .diverted → (fw' control.cid).diverted = control.original.diverted) :
    Holds before k fw' todo read := by
  have h' := h.restore hmem hfw
  refine ⟨h'.kept, fun cid hd => ?_, h.found⟩
  obtain hl | ⟨x, hx, rfl, hm⟩ := h'.only cid hd
  · exact .inl hl
  · obtain rfl | hx := List.mem_cons.1 hx
    · exact .inl ((h.found x hmem).1 (hback hm ▸ hd))
    · exact .inr ⟨x, hx, rfl, hm⟩

theorem Inv.running (hi : Inv before k) (h : k.phase ≠ .idle) : k.restored = none :=
  Option.not_isSome_iff_eq_none.1 fun hs => h (hi.idle hs)

/-- Arming goes on, or is done. -/
theorem inv_armNext {channel : Nat} {armed : List ArmedControl} (h : Holds before k fw armed (armed ++ todo))
    (hr : k.restored = none) :
    Inv before ({ k with fw }.armNext channel todo armed) := by
  unfold Keyboard.armNext
  cases todo with
  | nil =>
    exact ⟨h.kept, h.only, h.found, fun _ _ _ hp => (by cases hp), fun hs => (by simp [hr] at hs)⟩
  | cons control todo =>
    exact ⟨h.kept, h.only, h.found, fun _ _ _ hp => (by cases hp), fun hs => (by simp [hr] at hs)⟩

/-- The session ends, and owes what it armed. -/
theorem inv_owe {channel : Nat} {policy : RetiredChannelPolicy} {armed : List ArmedControl}
    (h : Holds before k fw armed armed) (hr : k.restored = none) :
    Inv before ({ k with fw }.owe channel policy armed) := by
  unfold Keyboard.owe
  cases armed with
  | nil =>
    exact ⟨h.kept, h.only, h.found, fun _ _ _ hp => (by cases hp), fun _ => rfl⟩
  | cons control armed =>
    refine ⟨h.kept, h.only, fun c hc => h.found c ?_, fun _ _ _ hp => (by cases hp), fun hs => (by simp [hr] at hs)⟩
    simpa [Phase.armed, Phase.todo] using hc

/-- What a dead session had diverted is left diverted. -/
theorem inv_die_of_holds (h : Holds before k fw held []) :
    Inv before
      { fw, phase := .idle, restored := none,
        abandoned := (held.filter fun control => (fw control.cid).diverted).map (·.cid) ++ k.abandoned } := by
  refine ⟨fun cid hl => ?_, fun cid hd => .inl ?_, fun _ hc => (by simp [Phase.armed, Phase.todo] at hc),
    fun _ _ _ hp => (by cases hp), fun hs => (by simp at hs)⟩
  · obtain hb | hmem := hl
    · exact h.kept cid (.inl hb)
    · obtain hmem | hmem := List.mem_append.1 hmem
      · obtain ⟨control, hc, rfl⟩ := List.mem_map.1 hmem
        exact (List.mem_filter.1 hc).2
      · exact h.kept cid (.inr hmem)
  · obtain hl | ⟨control, hc, rfl, -⟩ := h.only cid hd
    · exact hl.imp_right (List.mem_append_right _)
    · exact .inr (List.mem_append_left _ (List.mem_map.2 ⟨control, List.mem_filter.2 ⟨hc, hd⟩, rfl⟩))

theorem inv_die (hi : Inv before k) (applied : Bool) : Inv before (k.die applied) := by
  unfold Keyboard.die Keyboard.inFlight
  have h := hi.holds
  cases hp : k.phase with
  | idle =>
    rw [hp] at h
    exact inv_die_of_holds (h.mono (fun _ hc => hc) (by simp))
  | active channel armed =>
    rw [hp] at h
    exact inv_die_of_holds (h.mono (fun _ hc => hc) (by simp))
  | owing pending =>
    rw [hp] at h
    exact inv_die_of_holds (h.mono (fun _ hc => hc) (by simp))
  | arming channel todo armed =>
    rw [hp] at h
    cases todo with
    | nil => exact inv_die_of_holds (h.mono (fun _ hc => hc) (by simp))
    | cons control todo => exact inv_die_of_holds ((h.arm control (.failed applied)).mono (fun _ hc => hc) (by simp))
  | restoring pending todo complete =>
    rw [hp] at h
    have hsub : ∀ control ∈ (Phase.restoring pending todo complete).held, control ∈ pending.plan := by
      cases complete with
      | true => exact hi.rest pending todo true hp
      | false => exact fun _ hc => hc
    cases todo with
    | nil => exact inv_die_of_holds (h.mono hsub (by simp))
    | cons control todo =>
      have hmem : control ∈ pending.plan := hi.rest pending (control :: todo) complete hp control List.mem_cons_self
      have h' := h.restore (List.mem_append_left _ hmem) (diverted_restoring k.fw control (.failed applied))
      exact inv_die_of_holds (h'.mono hsub (by simp))

theorem inv_restore (hi : Inv before k) {pending : PendingRestore} {complete : Bool}
    (hp : k.phase = .restoring pending (control :: todo) complete) (first second : WriteEnd) :
    Inv before { k with
      fw := (restoreHostControl k.fw control first second).2
      phase := .restoring pending todo (complete && (restoreHostControl k.fw control first second).1) } := by
  obtain ⟨hfw, hback⟩ := restoreHostControl_spec k.fw control first second
  have hrest := hi.rest pending (control :: todo) complete hp
  have hmem : control ∈ pending.plan := hrest control List.mem_cons_self
  have h := hi.holds
  rw [hp] at h
  have hread : ∀ c ∈ pending.plan, c ∈ Phase.armed (.restoring pending (control :: todo) complete) ++
      Phase.todo (.restoring pending (control :: todo) complete) := fun c hc => List.mem_append_left _ hc
  have hnew : Holds before k (restoreHostControl k.fw control first second).2
      (Phase.restoring pending todo (complete && (restoreHostControl k.fw control first second).1)).held
      pending.plan := by
    cases complete with
    | false => exact (h.restore (hread control hmem) hfw).mono (fun _ hc => hc) hread
    | true =>
      cases hok : (restoreHostControl k.fw control first second).1 with
      | true => exact (h.restored (hread control hmem) hfw (hback hok)).mono (fun _ hc => hc) hread
      | false => exact (h.restore (hread control hmem) hfw).mono hrest hread
  refine ⟨hnew.kept, hnew.only, fun c hc => hnew.found c ?_, fun _ _ _ hq => ?_, fun hs => ?_⟩
  · simpa [Phase.armed, Phase.todo] using hc
  · cases hq
    exact fun c hc => hrest c (List.mem_cons_of_mem _ hc)
  · rw [hi.running (by simp [hp])] at hs
    cases hs

theorem inv_finish (hi : Inv before k) {pending : PendingRestore} {complete : Bool}
    (hp : k.phase = .restoring pending [] complete) (isCurrent : Bool) :
    Inv before (if complete && isCurrent then { k with phase := .idle, restored := some pending.plan }
      else { k with phase := .owing pending }) := by
  have h := hi.holds
  rw [hp] at h
  split
  · rename_i hc
    rw [Bool.and_eq_true] at hc
    have h' : Holds before k k.fw [] [] := h.mono (by simp [Phase.held, hc.1]) (by simp)
    exact ⟨h'.kept, h'.only, by simp [Phase.armed, Phase.todo], fun _ _ _ hq => (by cases hq), fun _ => rfl⟩
  · have h' : Holds before k k.fw pending.plan pending.plan := by
      refine h.mono ?_ fun c hc => List.mem_append_left _ hc
      cases complete with
      | true => simp [Phase.held]
      | false => exact fun _ hc => hc
    refine ⟨h'.kept, h'.only, fun c hc => h'.found c ?_, fun _ _ _ hq => (by cases hq), fun hs => ?_⟩
    · simpa [Phase.armed, Phase.todo] using hc
    · have hs' : k.restored.isSome := hs
      rw [hi.running (by simp [hp])] at hs'
      cases hs'

theorem inv_step (hi : Inv before k) {k' : Keyboard} {e : Event} (h : step k e = some k') : Inv before k' := by
  cases e with
  | begin channel table =>
    cases hp : k.phase with
    | idle =>
      simp only [step, hp, Option.some.injEq] at h
      subst h
      refine inv_armNext (k := { k with restored := none }) ⟨hi.kept, fun cid hd => ?_, fun control hc => ?_⟩ rfl
      · have h := hi.only cid hd
        rw [hp] at h
        exact h
      · obtain ⟨info, -, hinfo⟩ := List.mem_filterMap.1 hc
        obtain ⟨host, -, hhost⟩ := Option.bind_eq_some_iff.1 hinfo
        obtain ⟨mode, -, rfl⟩ := Option.map_eq_some_iff.1 hhost
        refine ⟨fun hd => ?_, hi.kept info.cid⟩
        have hl : Left before k info.cid := by
          simpa [hp, Phase.held, Phase.armed, DivertedBy] using hi.only info.cid hd
        exact hl
    | _ => simp [step, hp] at h
  | arm e policy =>
    cases hp : k.phase with
    | arming channel todo armed =>
      cases todo with
      | nil => simp [step, hp] at h
      | cons control todo =>
        simp only [step, hp, Option.some.injEq] at h
        subst h
        have hr := hi.running (by simp [hp])
        have h := hi.holds
        rw [hp] at h
        have h' := h.arm control e
        split
        · exact inv_armNext (h'.mono (fun _ hc => hc) (by simp [Phase.armed, Phase.todo])) hr
        · refine inv_owe (h'.mono (fun _ hc => hc) ?_) hr
          intro c hc
          refine List.mem_append.2 ((List.mem_append.1 hc).imp_right fun hc => ?_)
          exact List.mem_singleton.1 hc ▸ List.mem_cons_self
    | _ => simp [step, hp] at h
  | stop policy =>
    cases hp : k.phase with
    | active channel armed =>
      simp only [step, hp, Option.some.injEq] at h
      subst h
      have h := hi.holds
      rw [hp] at h
      exact inv_owe (h.mono (fun _ hc => hc) fun c hc => List.mem_append_left _ hc) (hi.running (by simp [hp]))
    | _ => simp [step, hp] at h
  | retry current retiredOpen =>
    cases hp : k.phase with
    | owing pending =>
      cases current with
      | none =>
        simp only [step, hp, Option.some.injEq] at h
        exact h ▸ hi
      | some current =>
        simp only [step, hp, Option.some.injEq] at h
        subst h
        split
        · have h := hi.holds
          rw [hp] at h
          refine ⟨h.kept, h.only, h.found, fun _ _ _ hq => ?_, fun hs => ?_⟩
          · cases hq
            exact fun _ hc => hc
          · have hs' : k.restored.isSome := hs
            rw [hi.running (by simp [hp])] at hs'
            cases hs'
        · exact hi
    | _ => simp [step, hp] at h
  | restore first second =>
    cases hp : k.phase with
    | restoring pending todo complete =>
      cases todo with
      | nil => simp [step, hp] at h
      | cons control todo =>
        simp only [step, hp, Option.some.injEq] at h
        subst h
        exact inv_restore hi hp first second
    | _ => simp [step, hp] at h
  | finish isCurrent =>
    cases hp : k.phase with
    | restoring pending todo complete =>
      cases todo with
      | nil =>
        simp only [step, hp, Option.some.injEq] at h
        subst h
        exact inv_finish hi hp isCurrent
      | cons control todo => simp [step, hp] at h
    | _ => simp [step, hp] at h
  | die applied =>
    have hdie : k' = k.die applied := by
      cases hp : k.phase <;> simp [step, hp] at h <;> exact h.symm
    rw [hdie]
    exact inv_die hi applied

end Invariant

/-- **The host keys are free after a restoration exactly when no session died on them.**  In every state of every run,
the host keys that the last session restored are diverted only as before the first session if and only if none of them
stood diverted when an earlier session that had armed it died, those diverted before the first session apart. -/
theorem host_keys_free (before : Firmware) (es : List Event) :
    EveryState step (fun k => HostKeysFree before k ↔ NoneAbandoned before k) (start before) es := by
  intro pre k _ hrun
  have hi : Inv before k := run_inv (Inv before) (fun _ _ _ hi h => inv_step hi h) pre _ k (inv_start before) hrun
  have hleft : ∀ armed ∈ k.restored, ∀ cid, (k.fw cid).diverted = true ↔ Left before k cid := by
    intro armed harmed cid
    have hp := hi.idle (Option.isSome_iff_exists.2 ⟨armed, harmed⟩)
    refine ⟨fun hd => ?_, hi.kept cid⟩
    simpa [hp, Phase.held, Phase.armed, DivertedBy] using hi.only cid hd
  constructor
  · exact fun h armed harmed control hc hab => h armed harmed control hc ((hleft armed harmed _).2 (.inr hab))
  · exact fun h armed harmed control hc hd =>
      ((hleft armed harmed _).1 hd).elim id (h armed harmed control hc)

/-- One host key, divertable and not diverted. -/
def oneKey : List CtrlIdInfo := [⟨0xD1, 0xAE, 0x20⟩]

def undiverted : Firmware := fun cid => ⟨cid, false, false, false, false, none, false, false⟩

/-- A session arms the host key and its process dies; the next one arms it, stops, and restores what it read. -/
def diedRun : List Event :=
  [.begin 0 oneKey, .arm .acknowledged .currentAllowed, .die true,
    .begin 1 oneKey, .arm .acknowledged .currentAllowed, .stop .currentAllowed,
    .retry (some 1) true, .restore .acknowledged .acknowledged, .finish true]

/-- **A dead session leaves its key diverted for good**: the restoration of the next one completes, and the key is
diverted. -/
theorem dead_session_diverts :
    ∃ k, run step (start undiverted) diedRun = some k ∧ ¬HostKeysFree undiverted k := by
  have heq : (run step (start undiverted) diedRun).map (fun k =>
      (k.restored.map (·.map (·.cid)), (k.fw 0xD1).diverted)) = some (some [0xD1], true) := by
    decide
  obtain ⟨k, hk, hproj⟩ := Option.map_eq_some_iff.1 heq
  simp only [Prod.mk.injEq] at hproj
  obtain ⟨armed, hres, hmap⟩ := Option.map_eq_some_iff.1 hproj.1
  obtain ⟨control, rfl, hcid⟩ := List.map_eq_singleton_iff.1 hmap
  refine ⟨k, hk, fun hfree => ?_⟩
  have := hfree [control] hres control List.mem_cons_self (by rw [hcid]; exact hproj.2)
  exact absurd this (by simp [undiverted])

end Session
end OpenLogi
