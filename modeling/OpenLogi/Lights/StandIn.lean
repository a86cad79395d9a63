import OpenLogi.Lib.Run
import OpenLogi.Lights.Changes
/-!
# StandIn — the stand-in of a control is the newest change made on the light

Any order of GUI writes, announced changes, config reloads and inventory changes.  The log beside the state says which
change of a control is the newest and what followed it; the stand-in kept is compared with that.
-/
namespace OpenLogi
namespace Lights

open Hid Lib

/-- A GUI write on its way: `write_light` awaiting its write. -/
structure Writing where
  id : Nat
  key : Option String
  control : LightControl
  claim : Option Nat
  deriving DecidableEq

/-- What happened, as far as it tells which change of a control is the newest. -/
inductive Fact where
  | announced (key : String) (change : ChangedOnLight)
  | began (id : Nat) (key : Option String) (control : LightControl)
  | succeeded (id : Nat)
  | reloaded (previous config : LightConfig) (source : ConfigSource)

structure Sys where
  orch : Orchestrator
  writing : List Writing
  started : Nat
  log : List Fact

inductive Event where
  | inventory (devices : List LightDevice)
  | announcement (route : DeviceRoute) (change : LightChange)
  | write (route : DeviceRoute) (command : LightCommand)
  | settle (id : Nat) (written : Bool)
  | reload (config : LightConfig) (source : ConfigSource)

/-- The values a change of a light offers as stand-ins.  The power of a camera-linked light is a manual choice. -/
def LightChange.announced (change : LightChange) (cameraLinked : Bool) : ChangedOnLight where
  enabled := if change.onLight.power && !cameraLinked then some change.state.on else none
  brightnessPercent := if change.onLight.brightness then Orchestrator.brightnessPercent change.state else none
  temperatureKelvin := if change.onLight.temperature then change.state.temperatureKelvin else none

/-- The settling of a write, as `write_light` does it after its write. -/
def Orchestrator.settle (o : Orchestrator) (claim : Option Nat) (written : Bool) : Orchestrator :=
  match claim with
  | none => o
  | some claim => if written then o.lightWritten claim else o.lightWriteFailed claim

def step (s : Sys) : Event → Option Sys
  | .inventory devices => some { s with orch := { s.orch with devices := devices } }
  | .announcement route change =>
    some { s with
      orch := s.orch.lightChanged route change
      log := match s.orch.onlineLightKey route with
        | none => s.log
        | some key => .announced key (change.announced ((s.orch.config key).any (·.autoCamera))) :: s.log }
  | .write route command =>
    let key := s.orch.onlineLightKey route
    let writing := s.orch.lightWriting route command
    some {
      orch := writing.2
      writing := ⟨s.started, key, command.control, writing.1⟩ :: s.writing
      started := s.started + 1
      log := .began s.started key command.control :: s.log }
  | .settle id written =>
    (s.writing.find? fun w => w.id == id).map fun w =>
      { s with
        orch := s.orch.settle w.claim written
        writing := s.writing.filter fun w => w.id != id
        log := if written then .succeeded id :: s.log else s.log }
  | .reload config source =>
    some { s with
      orch := s.orch.replaceConfigFrom config source
      log := .reloaded s.orch.config config source :: s.log }

/-! ### The newest change of a control, read off the log -/

namespace Fact

def changeOf (key : String) (c : LightControl) : Fact → Option c.Value
  | .announced k change => if k = key then change.get c else none
  | _ => none

/-- The write of the control that began here. -/
def writeOf (key : String) (c : LightControl) : Fact → Option Nat
  | .began id k d => if k = some key ∧ d = c then some id else none
  | _ => none

def success : Fact → Option Nat
  | .succeeded id => some id
  | _ => none

def replaces (key : String) (c : LightControl) (value : c.Value) : Fact → Bool
  | .reloaded previous config source => Replaces previous config source key c value
  | _ => false

end Fact

/-- The newest announced change of a control, and what followed it.  The log has its newest fact first. -/
def newest (key : String) (c : LightControl) : List Fact → Option (c.Value × List Fact)
  | [] => none
  | f :: older =>
    match f.changeOf key c with
    | some value => some (value, [])
    | none => (newest key c older).map fun p => (p.1, f :: p.2)

/-- The writes of a control among some facts. -/
def writesOf (key : String) (c : LightControl) (later : List Fact) : List Nat := later.filterMap (Fact.writeOf key c)

/-- A reload replaced the change, or a write of its control that began after it succeeded. -/
def outdated (key : String) (c : LightControl) (value : c.Value) (later : List Fact) : Bool :=
  later.any (Fact.replaces key c value) ||
    (writesOf key c later).any fun id => decide (id ∈ later.filterMap Fact.success)

/-- The newest announced change of a control, if no later write of it succeeded and no replacing reload followed. -/
def standing (key : String) (c : LightControl) (log : List Fact) : Option c.Value :=
  (newest key c log).bind fun p => if outdated key c p.1 p.2 then none else some p.1

/-- Writes of a control that began after its newest announced change. -/
def writesSince (key : String) (c : LightControl) (log : List Fact) : List Nat :=
  match newest key c log with
  | none => []
  | some p => writesOf key c p.2

variable {key : String} {c : LightControl} {f : Fact} {log : List Fact}

theorem newest_cons_change {v : c.Value} (log : List Fact) (h : f.changeOf key c = some v) :
    newest key c (f :: log) = some (v, []) := by
  simp only [newest, h]

theorem newest_cons (log : List Fact) (h : f.changeOf key c = none) :
    newest key c (f :: log) = (newest key c log).map fun p => (p.1, f :: p.2) := by
  simp only [newest, h]

theorem standing_cons_change {v : c.Value} (log : List Fact) (h : f.changeOf key c = some v) :
    standing key c (f :: log) = some v := by
  simp only [standing, newest_cons_change log h]
  rfl

theorem later_subset : ∀ {log : List Fact} {p : c.Value × List Fact},
    newest key c log = some p → p.2 ⊆ log
  | f :: log, p, h => by
    cases hf : f.changeOf key c with
    | some v =>
      rw [newest_cons_change log hf] at h
      cases h
      exact List.nil_subset _
    | none =>
      rw [newest_cons log hf] at h
      obtain ⟨q, hq, rfl⟩ := Option.map_eq_some_iff.1 h
      exact List.cons_subset_cons f (later_subset hq)

/-- A fact that is no change of the control drops the change when it outdates it, and nothing else. -/
theorem standing_cons (log : List Fact) (h : f.changeOf key c = none) {P : c.Value → Bool}
    (hP : ∀ p, newest key c log = some p → outdated key c p.1 (f :: p.2) = (P p.1 || outdated key c p.1 p.2)) :
    standing key c (f :: log) = (standing key c log).filter fun v => !P v := by
  unfold standing
  rw [newest_cons log h]
  cases hn : newest key c log with
  | none => rfl
  | some p =>
    have hp := hP p hn
    simp only [Option.map_some, Option.bind_some, hp]
    cases outdated key c p.1 p.2 <;> cases hq : P p.1 <;> simp [Option.filter, hq]

/-- A fact about something else leaves what stands. -/
theorem standing_neutral (log : List Fact) (h : f.changeOf key c = none) (hr : ∀ v, f.replaces key c v = false)
    (hw : f.writeOf key c = none) (hs : f.success = none) :
    standing key c (f :: log) = standing key c log := by
  have hsame : standing key c (f :: log) = (standing key c log).filter fun _ => !false := by
    refine standing_cons log h (P := fun _ => false) fun p hp => ?_
    rw [Bool.false_or]
    simp only [outdated, writesOf, List.any_cons, hr, Bool.false_or, List.filterMap_cons, hw, hs]
  rw [hsame]
  cases standing key c log <;> rfl

theorem standing_reloaded (key : String) (c : LightControl) (log : List Fact) (previous config : LightConfig)
    (source : ConfigSource) :
    standing key c (.reloaded previous config source :: log) =
      (standing key c log).filter fun v => !Replaces previous config source key c v :=
  standing_cons log rfl fun p _ => by
    simp only [outdated, writesOf, List.any_cons, Fact.replaces, List.filterMap_cons, Fact.writeOf, Fact.success,
      Bool.or_assoc]
    rfl

theorem standing_began {id : Nat} (k : Option String) (d : LightControl) (hid : Fact.succeeded id ∉ log) :
    standing key c (.began id k d :: log) = standing key c log := by
  have hsame : standing key c (.began id k d :: log) = (standing key c log).filter fun _ => !false := by
    refine standing_cons log rfl (P := fun _ => false) fun p hp => ?_
    rw [Bool.false_or]
    have hns : id ∉ p.2.filterMap Fact.success := by
      intro h
      obtain ⟨f, hf, hs⟩ := List.mem_filterMap.1 h
      cases f <;> cases hs
      exact hid (later_subset hp hf)
    simp only [outdated, writesOf, List.any_cons, Fact.replaces, Bool.false_or, List.filterMap_cons, Fact.success]
    cases hw : Fact.writeOf key c (.began id k d) with
    | none => rfl
    | some i =>
      have hi : i = id := by
        simp only [Fact.writeOf] at hw
        split at hw <;> cases hw
        rfl
      subst hi
      simp only [List.any_cons, hns, decide_false, Bool.false_or]
      rfl
  rw [hsame]
  cases standing key c log <;> rfl

theorem standing_succeeded (log : List Fact) (id : Nat) :
    standing key c (.succeeded id :: log) =
      if id ∈ writesSince key c log then none else standing key c log := by
  unfold standing writesSince
  rw [newest_cons log rfl]
  cases hn : newest key c log with
  | none => rfl
  | some p =>
    simp only [Option.map_some, Option.bind_some]
    have ho : outdated key c p.1 (.succeeded id :: p.2) =
        (outdated key c p.1 p.2 || decide (id ∈ writesOf key c p.2)) := by
      simp only [outdated, writesOf, List.any_cons, Fact.replaces, Bool.false_or, List.filterMap_cons, Fact.writeOf,
        Fact.success]
      rw [Bool.or_assoc]
      congr 1
      rw [Bool.eq_iff_iff]
      simp only [List.any_eq_true, decide_eq_true_eq, List.mem_cons, Bool.or_eq_true]
      constructor
      · rintro ⟨x, hx, rfl | hs⟩
        · exact .inr (decide_eq_true hx)
        · exact .inl ⟨x, hx, hs⟩
      · rintro (⟨x, hx, hs⟩ | hx)
        · exact ⟨x, hx, .inr hs⟩
        · exact ⟨id, of_decide_eq_true hx, .inl rfl⟩
    rw [ho]
    by_cases hi : id ∈ writesOf key c p.2
    · simp [hi]
    · simp [hi]

/-- Writes since the newest change: one more where the fact is such a write. -/
theorem mem_writesSince_cons {id : Nat} (h : f.changeOf key c = none) (hid : id ∈ writesSince key c log) :
    id ∈ writesSince key c (f :: log) := by
  unfold writesSince at hid ⊢
  rw [newest_cons log h]
  cases hn : newest key c log with
  | none =>
    rw [hn] at hid
    cases hid
  | some p =>
    rw [hn] at hid
    simp only [Option.map_some, writesOf, List.filterMap_cons] at hid ⊢
    cases Fact.writeOf key c f with
    | none => exact hid
    | some i => exact List.mem_cons_of_mem i hid

theorem writesSince_began {v : c.Value} (id : Nat) (h : standing key c log = some v) :
    id ∈ writesSince key c (.began id (some key) c :: log) := by
  unfold standing at h
  obtain ⟨p, hp, -⟩ := Option.bind_eq_some_iff.1 h
  unfold writesSince
  rw [newest_cons log rfl, hp]
  simp [writesOf, Fact.writeOf]

theorem began_of_mem_writesSince {id : Nat} (h : id ∈ writesSince key c log) : Fact.began id (some key) c ∈ log := by
  unfold writesSince at h
  cases hn : newest key c log with
  | none =>
    rw [hn] at h
    cases h
  | some p =>
    rw [hn] at h
    obtain ⟨f, hf, hw⟩ := List.mem_filterMap.1 h
    cases f with
    | began i k d =>
      simp only [Fact.writeOf] at hw
      split at hw <;> cases hw
      rename_i hk
      obtain ⟨rfl, rfl⟩ := hk
      exact later_subset hn hf
    | announced k ch => cases hw
    | succeeded i => cases hw
    | reloaded a b d => cases hw

/-! ### What each operation does to a stand-in -/

namespace Orchestrator

variable (o : Orchestrator)

theorem get_withChange (changed : ChangedOnLight) (cameraLinked : Bool) (change : LightChange) (c : LightControl) :
    (withChange changed cameraLinked change).get c = ((change.announced cameraLinked).get c).or (changed.get c) := by
  simp only [withChange, LightChange.announced]
  generalize (change.onLight.power && !cameraLinked) = power
  generalize change.onLight.brightness = brightness
  generalize change.onLight.temperature = temperature
  generalize brightnessPercent change.state = percent
  generalize change.state.temperatureKelvin = kelvin
  cases c with
  | power => cases power <;> cases brightness <;> cases percent <;> cases temperature <;> cases kelvin <;> rfl
  | brightness => cases power <;> cases brightness <;> cases percent <;> cases temperature <;> cases kelvin <;> rfl
  | temperature => cases power <;> cases brightness <;> cases percent <;> cases temperature <;> cases kelvin <;> rfl

theorem standIn_lightChanged (route : DeviceRoute) (change : LightChange) (key : String) (c : LightControl) :
    (o.lightChanged route change).standIn key c =
      if o.onlineLightKey route = some key then
        ((change.announced ((o.config key).any (·.autoCamera))).get c).or (o.standIn key c)
      else o.standIn key c := by
  unfold lightChanged
  cases hk : o.onlineLightKey route with
  | none => rfl
  | some k =>
    by_cases hkey : k = key
    · subst hkey
      simp only [standIn, Function.update_self, kept_bind_get, if_true, get_withChange, getD_get]
    · have hne : ¬ (some k = some key) := fun h => hkey (Option.some.inj h)
      simp only [standIn, if_neg hne, Function.update_of_ne (Ne.symm hkey)]

theorem lightWrites_lightChanged (route : DeviceRoute) (change : LightChange) :
    (o.lightChanged route change).lightWrites = o.lightWrites ∧
      (o.lightChanged route change).nextLightWrite = o.nextLightWrite := by
  unfold lightChanged
  cases o.onlineLightKey route <;> exact ⟨rfl, rfl⟩

theorem takeFor_get (command : LightCommand) (changed : ChangedOnLight) (c : LightControl) :
    (takeFor command changed).1.get c = (if c = command.control then changed.get c else none) ∧
      (takeFor command changed).2.get c = if c = command.control then none else changed.get c := by
  cases command <;> cases c <;> exact ⟨rfl, rfl⟩

/-- **What a write about to start takes** is the stand-in of its control, under a new claim; no other one moves. -/
theorem lightWriting_spec {key : String} {route : DeviceRoute} (hk : o.onlineLightKey route = some key)
    (command : LightCommand) :
    (∀ k c, (o.lightWriting route command).2.standIn k c =
      if k = key ∧ c = command.control then none else o.standIn k c) ∧
    ((o.standIn key command.control = none ∧ (o.lightWriting route command).1 = none ∧
        (o.lightWriting route command).2.lightWrites = o.lightWrites ∧
        (o.lightWriting route command).2.nextLightWrite = o.nextLightWrite) ∨
      ∃ taken : TakenLightChange, taken.key = key ∧
        (∀ c, taken.changed.get c = if c = command.control then o.standIn key c else none) ∧
        (o.lightWriting route command).1 = some o.nextLightWrite ∧
        (o.lightWriting route command).2.lightWrites =
          Function.update o.lightWrites o.nextLightWrite (some taken) ∧
        (o.lightWriting route command).2.nextLightWrite = o.nextLightWrite + 1) := by
  unfold lightWriting
  simp only [hk]
  cases hc : o.lightsChangedOnLight key with
  | none =>
    have hnone : ∀ c, o.standIn key c = none := fun c => by simp only [standIn, hc, Option.bind_none]
    refine ⟨fun k c => ?_, .inl ⟨hnone _, rfl, rfl, rfl⟩⟩
    by_cases h : k = key ∧ c = command.control
    · rw [if_pos h, h.1, hnone]
    · rw [if_neg h]
  | some changed =>
    have hget : ∀ c, o.standIn key c = changed.get c := fun c => by simp only [standIn, hc, Option.bind_some]
    have hleft : ∀ k c, ((Function.update o.lightsChangedOnLight key (kept (takeFor command changed).2)) k).bind
        (·.get c) = if k = key ∧ c = command.control then none else o.standIn k c := by
      intro k c
      by_cases h : k = key
      · subst h
        simp only [Function.update_self, kept_bind_get, (takeFor_get command changed c).2, hget, true_and]
      · simp only [Function.update_of_ne h, h, false_and, if_false, standIn]
    by_cases he : (takeFor command changed).1.isEmpty = true
    · simp only [he, if_true]
      refine ⟨hleft, .inl ⟨?_, trivial, trivial, trivial⟩⟩
      have := isEmpty_iff.1 he command.control
      rw [(takeFor_get command changed _).1, if_pos rfl] at this
      rw [hget, this]
    · simp only [he, Bool.false_eq_true, if_false]
      exact ⟨hleft, .inr ⟨⟨key, (takeFor command changed).1⟩, rfl,
        fun c => by rw [hget]; exact (takeFor_get command changed c).1, trivial, rfl, trivial⟩⟩

theorem lightWriting_offline {route : DeviceRoute} (hk : o.onlineLightKey route = none) (command : LightCommand) :
    o.lightWriting route command = (none, o) := by
  simp only [lightWriting, hk]

variable {claim : Nat}

theorem lightWriteFailed_spec {taken : TakenLightChange} (h : o.lightWrites claim = some taken) :
    (∀ k c, (o.lightWriteFailed claim).standIn k c =
      if k = taken.key then (o.standIn k c).or (taken.changed.get c) else o.standIn k c) ∧
    (o.lightWriteFailed claim).lightWrites = Function.update o.lightWrites claim none ∧
      (o.lightWriteFailed claim).nextLightWrite = o.nextLightWrite := by
  unfold lightWriteFailed
  simp only [h]
  refine ⟨fun k c => ?_, trivial, trivial⟩
  by_cases hk : k = taken.key
  · subst hk
    simp only [standIn, Function.update_self, Option.bind_some, if_true, ← getD_get]
    cases c <;> rfl
  · simp only [standIn, Function.update_of_ne hk, hk, if_false]

theorem standIn_replaceConfigFrom (config : LightConfig) (source : ConfigSource) (key : String) (c : LightControl) :
    (o.replaceConfigFrom config source).standIn key c =
      (o.standIn key c).filter fun v => !Replaces o.config config source key c v := by
  simp only [replaceConfigFrom, forgetSavedLightChanges, standIn, Option.bind_assoc, kept_bind_get,
    get_forgetSavedChanges]
  cases o.lightsChangedOnLight key <;> rfl

/-- What a write in flight holds of a control after a reload. -/
theorem lightWrites_replaceConfigFrom {config : LightConfig} {source : ConfigSource} {taken : TakenLightChange}
    (h : o.lightWrites claim = some taken) (c : LightControl) {v : c.Value} (hv : taken.changed.get c = some v)
    (hr : Replaces o.config config source taken.key c v = false) :
    ∃ left : TakenLightChange, (o.replaceConfigFrom config source).lightWrites claim = some left ∧
      left.key = taken.key ∧ left.changed.get c = some v := by
  have hget := get_forgetSavedChanges taken.key taken.changed o.config config source c
  rw [hv, Option.filter_some, hr] at hget
  have hne : (forgetSavedChanges taken.key taken.changed o.config config source).isEmpty = false := by
    rw [Bool.eq_false_iff]
    intro he
    rw [isEmpty_iff.1 he c] at hget
    cases hget
  refine ⟨⟨taken.key, forgetSavedChanges taken.key taken.changed o.config config source⟩, ?_, rfl, hget⟩
  simp only [replaceConfigFrom, forgetSavedLightChanges, h, Option.bind_some, kept, hne, Bool.false_eq_true, if_false,
    Option.map_some]

/-- A reload takes from a write in flight, and gives it nothing. -/
theorem of_lightWrites_replaceConfigFrom {config : LightConfig} {source : ConfigSource} {left : TakenLightChange}
    (h : (o.replaceConfigFrom config source).lightWrites claim = some left) :
    ∃ taken, o.lightWrites claim = some taken ∧ left.key = taken.key ∧
      ∀ c, taken.changed.get c = none → left.changed.get c = none := by
  simp only [replaceConfigFrom, forgetSavedLightChanges] at h
  obtain ⟨taken, ht, hm⟩ := Option.bind_eq_some_iff.1 h
  obtain ⟨changed, hkept, rfl⟩ := Option.map_eq_some_iff.1 hm
  refine ⟨taken, ht, rfl, fun c hc => ?_⟩
  have : changed = forgetSavedChanges taken.key taken.changed o.config config source := by
    unfold kept at hkept
    split at hkept <;> cases hkept
    rfl
  rw [this, get_forgetSavedChanges, hc]
  rfl

end Orchestrator

end Lights
end OpenLogi
