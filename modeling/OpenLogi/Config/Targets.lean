import OpenLogi.Config.Adoption
import OpenLogi.Lib.Run
import Mathlib.Data.List.Nodup
/-!
# Targets — the devices that follow a keyboard's host switch

The editor links a target once.  Adopting a route and migrating direct keys rename the keys inside the lists, and merge
the entries of one device: a list that names one device by two keys then names it twice, and a device that followed
another entry of itself follows itself.
-/
namespace OpenLogi
namespace Config

open OpenLogi.Core (PhysicalDeviceKey stripPrefix splitOnce)
open Lib (Along EveryState everyState_iff_along)

variable {V : Type}

/-! ## The operations -/

/-- The identity key and the route in a version-4 direct key. -/
def parseRename (key : String) : Option (String × String) := do
  let rest ← stripPrefix "direct:" key
  let (vendor, rest) ← splitOnce ':' rest.toList
  let (product, identity) ← splitOnce ':' rest
  let identity := String.ofList identity
  let _ ← PhysicalDeviceKey.parse identity
  some (identity, s!"direct:{String.ofList vendor}:{String.ofList product}")

namespace Config

def hostSwitchTargets (c : Config V) (keyboardKey : String) : List String :=
  c.devices[keyboardKey]?.elim [] DeviceConfig.hostSwitchTargets

def linkHostSwitchTarget (c : Config V) (keyboardKey targetKey : String) : Config V :=
  let device := c.devices[keyboardKey]?.getD {}
  let targets := if device.hostSwitchTargets.any (· = targetKey) then device.hostSwitchTargets
    else device.hostSwitchTargets ++ [targetKey]
  { c with devices := c.devices.insert keyboardKey { device with hostSwitchTargets := targets } }

def unlinkHostSwitchTarget (c : Config V) (keyboardKey targetKey : String) : Config V :=
  match c.devices[keyboardKey]? with
  | some device =>
    let targets := device.hostSwitchTargets.filter (· ≠ targetKey)
    { c with devices := c.devices.insert keyboardKey { device with hostSwitchTargets := targets } }
  | none => c

/-- The new key and the route of every direct key, wherever it occurs. -/
def renames (c : Config V) : BTreeMap (String × String) :=
  let occurring := c.devices.keys ++ c.selectedDevice.toList ++
    c.devices.toList.flatMap fun (_, device) => device.hostSwitchTargets
  Std.ExtTreeMap.ofList (occurring.filterMap fun key => (parseRename key).map fun renamed => (key, renamed))

/-- A reference after the renames. -/
def rename (c : Config V) (key : String) : String := c.renames[key]?.elim key Prod.fst

variable [DecidableEq V]

/-- Move the entry of an old key; a second entry of one device is folded into the first. -/
def moveEntry (devices : BTreeMap (DeviceConfig V)) : String × String × String → BTreeMap (DeviceConfig V)
  | (old, new, route) =>
    match devices[old]? with
    | none => devices
    | some device =>
      let devices := devices.erase old
      let device := { device with links := device.links.insertIfNew route {} }
      match devices[new]? with
      | some existing => devices.insert new (fold existing device route)
      | none => devices.insert new device

def migrateTransportScopedKeys (c : Config V) : Config V where
  selectedDevice := c.selectedDevice.map c.rename
  devices := (c.renames.toList.foldl moveEntry c.devices).map fun _ device =>
    { device with hostSwitchTargets := device.hostSwitchTargets.map c.rename }

end Config

/-- An operation on the keys in a configuration. -/
inductive Edit (V : Type) where
  | link (keyboardKey targetKey : String)
  | unlink (keyboardKey targetKey : String)
  | adopt (canonical : PhysicalDeviceKey) (routeKey : String) (capabilities : Option V)
  | migrate

namespace Config

variable [DecidableEq V]

def edit (c : Config V) : Edit V → Option (Config V)
  | .link keyboardKey targetKey => some (c.linkHostSwitchTarget keyboardKey targetKey)
  | .unlink keyboardKey targetKey => some (c.unlinkHostSwitchTarget keyboardKey targetKey)
  | .adopt canonical routeKey capabilities => some (c.adoptRoute canonical routeKey capabilities).2
  | .migrate => some c.migrateTransportScopedKeys

/-- Every list is duplicate-free and does not name its own device. -/
def TargetsWellFormed (c : Config V) : Prop :=
  ∀ key, (c.hostSwitchTargets key).Nodup ∧ key ∉ c.hostSwitchTargets key

/-! ## When a list stays well formed -/

/-- The keys of the entries that come together under each key, the first to settle there first. -/
def gather (gathered : String → List String) : String × String × String → String → List String
  | (old, new, _) =>
    let moved := gathered old
    let gathered := Function.update gathered old []
    Function.update gathered new (gathered new ++ moved)

def gathered (c : Config V) : String → List String :=
  c.renames.toList.foldl gather fun key => if c.devices.contains key then [key] else []

/-- The list that an entry has after the migration, under the old names: the first that is not empty. -/
def inheritedTargets (c : Config V) (key : String) : List String :=
  ((c.gathered key).map c.hostSwitchTargets).foldr foldIfEmpty []

/-- The edit makes no two keys of one list the same, and no key of a list that of the list's own device. -/
def KeepsApart (c : Config V) : Edit V → Prop
  | .link keyboardKey targetKey => targetKey ≠ keyboardKey
  | .unlink _ _ => True
  | .adopt canonical routeKey _ => (c.legacyEntry canonical routeKey).isSome = true →
    (∀ key, key ≠ canonical.asStr → key ≠ routeKey →
      ¬ (routeKey ∈ c.hostSwitchTargets key ∧ canonical.asStr ∈ c.hostSwitchTargets key)) ∧
    ∀ target ∈ foldIfEmpty (c.hostSwitchTargets canonical.asStr) (c.hostSwitchTargets routeKey),
      target ≠ routeKey ∧ target ≠ canonical.asStr
  | .migrate => ∀ key, (∀ a ∈ c.inheritedTargets key, ∀ b ∈ c.inheritedTargets key, c.rename a = c.rename b → a = b) ∧
    ∀ target ∈ c.inheritedTargets key, c.rename target ≠ key

end Config

/-! ## One list -/

/-- Repointing keeps a list duplicate-free unless it names both keys. -/
theorem nodup_repointTarget {old new : String} (h : old ≠ new) {targets : List String} (hnodup : targets.Nodup) :
    (targets.map (repointTarget old new)).Nodup ↔ ¬ (old ∈ targets ∧ new ∈ targets) := by
  rw [List.nodup_map_iff_inj_on hnodup]
  constructor
  · rintro hinj ⟨hold, hnew⟩
    exact h (hinj old hold new hnew (by simp [repointTarget]))
  · intro hnot a ha b hb heq
    unfold repointTarget at heq
    split at heq <;> split at heq
    · next haold hbold => rw [haold, hbold]
    · next haold hbold => exact (hnot ⟨haold ▸ ha, heq ▸ hb⟩).elim
    · next haold hbold => exact (hnot ⟨hbold ▸ hb, heq ▸ ha⟩).elim
    · exact heq

theorem mem_repointTarget {old new key : String} (targets : List String) (hkey : key ≠ old) :
    key ∈ targets.map (repointTarget old new) ↔ key ∈ targets ∨ key = new ∧ old ∈ targets := by
  rw [List.mem_map]
  constructor
  · rintro ⟨target, htarget, rfl⟩
    unfold repointTarget
    split
    · next heq => exact .inr ⟨rfl, heq ▸ htarget⟩
    · exact .inl htarget
  · rintro (hmem | ⟨rfl, hold⟩)
    · exact ⟨key, hmem, if_neg hkey⟩
    · exact ⟨old, hold, if_pos rfl⟩

theorem foldIfEmpty_assoc {α : Type} (a b c : List α) :
    foldIfEmpty (foldIfEmpty a b) c = foldIfEmpty a (foldIfEmpty b c) := by
  cases a <;> rfl

theorem foldr_foldIfEmpty_append {α : Type} (as bs : List (List α)) :
    (as ++ bs).foldr foldIfEmpty [] = foldIfEmpty (as.foldr foldIfEmpty []) (bs.foldr foldIfEmpty []) := by
  induction as with
  | nil => rfl
  | cons a as ih => rw [List.cons_append, List.foldr_cons, List.foldr_cons, ih, foldIfEmpty_assoc]

/-- The list that a merge keeps is one of the lists merged. -/
theorem foldr_foldIfEmpty_mem {α : Type} (as : List (List α)) :
    as.foldr foldIfEmpty [] = [] ∨ as.foldr foldIfEmpty [] ∈ as := by
  induction as with
  | nil => exact .inl rfl
  | cons a as ih =>
    cases a with
    | nil => exact ih.imp_right (List.mem_cons_of_mem _)
    | cons x xs => exact .inr List.mem_cons_self

namespace Config

/-! ## One edit -/

theorem hostSwitchTargets_insert (c : Config V) (keyboardKey key : String) (device : DeviceConfig V) :
    ({ c with devices := c.devices.insert keyboardKey device } : Config V).hostSwitchTargets key =
      if keyboardKey = key then device.hostSwitchTargets else c.hostSwitchTargets key := by
  simp only [hostSwitchTargets, BTreeMap.getElem?_insert]
  split <;> rfl

theorem hostSwitchTargets_getD (c : Config V) (key : String) :
    (c.devices[key]?.getD {}).hostSwitchTargets = c.hostSwitchTargets key := by
  unfold hostSwitchTargets
  cases c.devices[key]? <;> rfl

theorem linkHostSwitchTarget_wellFormed {c : Config V} (h : c.TargetsWellFormed) (keyboardKey targetKey : String) :
    (c.linkHostSwitchTarget keyboardKey targetKey).TargetsWellFormed ↔ targetKey ≠ keyboardKey := by
  have hlist : ∀ key, (c.linkHostSwitchTarget keyboardKey targetKey).hostSwitchTargets key =
      if keyboardKey = key then
        if targetKey ∈ c.hostSwitchTargets keyboardKey then c.hostSwitchTargets keyboardKey
        else c.hostSwitchTargets keyboardKey ++ [targetKey]
      else c.hostSwitchTargets key := by
    intro key
    rw [linkHostSwitchTarget, hostSwitchTargets_insert]
    simp [hostSwitchTargets_getD]
  constructor
  · rintro hafter rfl
    refine (hafter targetKey).2 ?_
    rw [hlist, if_pos rfl]
    split
    · assumption
    · exact List.mem_append_right _ List.mem_cons_self
  · intro hne key
    rw [hlist]
    split
    · next heq =>
      subst heq
      split
      · exact h keyboardKey
      · next hnot =>
        refine ⟨?_, ?_⟩
        · rw [List.nodup_append_comm]
          exact List.nodup_cons.2 ⟨hnot, (h keyboardKey).1⟩
        · rw [List.mem_append, List.mem_singleton, not_or]
          exact ⟨(h keyboardKey).2, hne.symm⟩
    · exact h key

theorem unlinkHostSwitchTarget_wellFormed {c : Config V} (h : c.TargetsWellFormed) (keyboardKey targetKey : String) :
    (c.unlinkHostSwitchTarget keyboardKey targetKey).TargetsWellFormed := by
  intro key
  unfold unlinkHostSwitchTarget
  split
  · next device hdevice =>
    rw [hostSwitchTargets_insert]
    split
    · next heq =>
      subst heq
      have hlist : device.hostSwitchTargets = c.hostSwitchTargets keyboardKey := by rw [hostSwitchTargets, hdevice]; rfl
      rw [hlist]
      exact ⟨(h keyboardKey).1.filter _, fun hmem => (h keyboardKey).2 (List.mem_of_mem_filter hmem)⟩
    · exact h key
  · exact h key

section
variable [DecidableEq V]

theorem hostSwitchTargets_adoptRoute (c : Config V) (canonical : PhysicalDeviceKey) (routeKey : String)
    (capabilities : Option V) (key : String) :
    (c.adoptRoute canonical routeKey capabilities).2.hostSwitchTargets key =
      if (c.legacyEntry canonical routeKey).isSome then
        if key = canonical.asStr then
          (foldIfEmpty (c.hostSwitchTargets canonical.asStr) (c.hostSwitchTargets routeKey)).map
            (repointTarget routeKey canonical.asStr)
        else if key = routeKey then []
        else (c.hostSwitchTargets key).map (repointTarget routeKey canonical.asStr)
      else c.hostSwitchTargets key := by
  have hsighted : (c.sightedEntry canonical routeKey capabilities).hostSwitchTargets =
      c.hostSwitchTargets canonical.asStr := hostSwitchTargets_getD c canonical.asStr
  by_cases hkey : key = canonical.asStr
  · subst hkey
    simp only [hostSwitchTargets, getElem?_adoptRoute_self, Option.elim_some, if_pos]
    cases hlegacy : c.legacyEntry canonical routeKey with
    | none => exact hsighted
    | some legacy =>
      have hentry : c.devices[routeKey]? = some legacy := by
        unfold legacyEntry at hlegacy
        split at hlegacy
        · exact hlegacy
        · cases hlegacy
      rw [hentry]
      exact congrArg (fun ours => (foldIfEmpty ours legacy.hostSwitchTargets).map _) hsighted
  · rw [if_neg hkey, hostSwitchTargets, getElem?_adoptRoute_ne c canonical routeKey capabilities hkey]
    split
    · next heq =>
      subst heq
      split
      · rfl
      · next hnone =>
        have hentry : c.devices[key]? = none := by simpa [legacyEntry, hkey] using hnone
        rw [hostSwitchTargets, hentry]
    · rw [hostSwitchTargets]
      cases c.devices[key]? with
      | none => split <;> rfl
      | some device => split <;> rfl

variable {c : Config V}

theorem adoptRoute_wellFormed (h : c.TargetsWellFormed) (canonical : PhysicalDeviceKey) (routeKey : String)
    (capabilities : Option V) :
    (c.adoptRoute canonical routeKey capabilities).2.TargetsWellFormed ↔
      c.KeepsApart (.adopt canonical routeKey capabilities) := by
  simp only [KeepsApart]
  cases hlegacy : c.legacyEntry canonical routeKey with
  | none =>
    refine ⟨fun _ hsome => (by cases hsome), fun _ key => ?_⟩
    rw [hostSwitchTargets_adoptRoute, hlegacy, Option.isSome_none, if_neg Bool.false_ne_true]
    exact h key
  | some legacy =>
    have hne : routeKey ≠ canonical.asStr := by
      intro heq
      rw [legacyEntry, if_neg (not_not.2 heq)] at hlegacy
      cases hlegacy
    have hlist := hostSwitchTargets_adoptRoute c canonical routeKey capabilities
    simp only [hlegacy, Option.isSome_some, if_true] at hlist
    have hown : (foldIfEmpty (c.hostSwitchTargets canonical.asStr) (c.hostSwitchTargets routeKey)).Nodup := by
      unfold foldIfEmpty
      split
      · exact (h routeKey).1
      · exact (h canonical.asStr).1
    constructor
    · intro hafter _
      refine ⟨fun key hkey hroute => ?_, fun target htarget => ?_⟩
      · have hnodup := (hafter key).1
        rw [hlist, if_neg hkey, if_neg hroute] at hnodup
        exact (nodup_repointTarget hne (h key).1).1 hnodup
      · have hnot := (hafter canonical.asStr).2
        rw [hlist, if_pos rfl, mem_repointTarget _ hne.symm, not_or] at hnot
        exact ⟨fun heq => hnot.2 ⟨rfl, heq ▸ htarget⟩, fun heq => hnot.1 (heq ▸ htarget)⟩
    · intro hapart key
      obtain ⟨hothers, hmerged⟩ := hapart rfl
      rw [hlist]
      split
      · next heq =>
        subst heq
        rw [nodup_repointTarget hne hown, mem_repointTarget _ hne.symm]
        refine ⟨fun hboth => (hmerged _ hboth.1).1 rfl, ?_⟩
        rintro (hmem | ⟨-, hmem⟩)
        · exact (hmerged _ hmem).2 rfl
        · exact (hmerged _ hmem).1 rfl
      · next hkey =>
        split
        · exact ⟨List.nodup_nil, List.not_mem_nil⟩
        · next hroute =>
          rw [nodup_repointTarget hne (h key).1, mem_repointTarget _ hroute]
          exact ⟨hothers key hkey hroute, not_or.2 ⟨(h key).2, fun hboth => hkey hboth.1⟩⟩

/-- What a move keeps: an entry is under each key where entries came together, with the first list of theirs. -/
def Gathers (c : Config V) (gathered : String → List String) (devices : BTreeMap (DeviceConfig V)) : Prop :=
  ∀ key, devices[key]?.map DeviceConfig.hostSwitchTargets =
    if gathered key = [] then none else some (((gathered key).map c.hostSwitchTargets).foldr foldIfEmpty [])

omit [DecidableEq V] in
theorem Gathers.start (c : Config V) :
    c.Gathers (fun key => if c.devices.contains key then [key] else []) c.devices := by
  intro key
  have hcontains := Std.ExtTreeMap.contains_eq_isSome_getElem? (t := c.devices) (a := key)
  cases hentry : c.devices[key]? with
  | none =>
    rw [hentry] at hcontains
    simp [hcontains]
  | some device =>
    rw [hentry] at hcontains
    have hlist : c.hostSwitchTargets key = device.hostSwitchTargets := by rw [hostSwitchTargets, hentry]; rfl
    cases htargets : device.hostSwitchTargets <;> simp [hcontains, hlist, htargets, foldIfEmpty]

theorem Gathers.move {gathered : String → List String} {devices : BTreeMap (DeviceConfig V)}
    (h : c.Gathers gathered devices) (rename : String × String × String) :
    c.Gathers (gather gathered rename) (moveEntry devices rename) := by
  obtain ⟨old, new, route⟩ := rename
  -- without the entry of the old key
  have herased : c.Gathers (Function.update gathered old []) (devices.erase old) := by
    intro key
    rw [BTreeMap.getElem?_erase]
    by_cases hkey : old = key
    · subst hkey
      simp
    · rw [if_neg hkey, Function.update_of_ne (Ne.symm hkey)]
      exact h key
  have hold := h old
  cases hdevice : devices[old]? with
  | none =>
    have hempty : gathered old = [] := by
      by_contra hne
      rw [hdevice, if_neg hne] at hold
      cases hold
    have hsame : gather gathered (old, new, route) = gathered := by
      simp only [gather, hempty, List.append_nil, Function.update_eq_self]
      rw [← hempty, Function.update_eq_self]
    simp only [hsame, moveEntry, hdevice]
    exact h
  | some device =>
    have hne : gathered old ≠ [] := by
      intro hempty
      rw [hdevice, if_pos hempty] at hold
      cases hold
    rw [hdevice, if_neg hne, Option.map_some, Option.some.injEq] at hold
    intro key
    have hnew := herased new
    by_cases hkey : new = key
    · subst hkey
      simp only [gather, Function.update_self]
      rw [if_neg (by simp [hne]), List.map_append, foldr_foldIfEmpty_append, ← hold]
      cases hexisting : (devices.erase old)[new]? with
      | none =>
        have hempty : Function.update gathered old [] new = [] := by
          by_contra hne
          rw [hexisting, if_neg hne] at hnew
          cases hnew
        simp [moveEntry, hdevice, hexisting, hempty, foldIfEmpty]
      | some existing =>
        have hne : Function.update gathered old [] new ≠ [] := by
          intro hempty
          rw [hexisting, if_pos hempty] at hnew
          cases hnew
        rw [hexisting, if_neg hne, Option.map_some, Option.some.injEq] at hnew
        rw [← hnew]
        simp [moveEntry, hdevice, hexisting, fold]
    · have hmoved : (moveEntry devices (old, new, route))[key]? = (devices.erase old)[key]? := by
        simp only [moveEntry, hdevice]
        split <;> rw [BTreeMap.getElem?_insert, if_neg hkey]
      simp only [hmoved, gather, Function.update_of_ne (Ne.symm hkey)]
      exact herased key

theorem hostSwitchTargets_migrate (c : Config V) (key : String) :
    c.migrateTransportScopedKeys.hostSwitchTargets key = (c.inheritedTargets key).map c.rename := by
  have hgathers : ∀ (renames : List (String × String × String)) (gathered : String → List String)
      (devices : BTreeMap (DeviceConfig V)), c.Gathers gathered devices →
        c.Gathers (renames.foldl gather gathered) (renames.foldl moveEntry devices) := by
    intro renames
    induction renames with
    | nil => exact fun _ _ h => h
    | cons rename renames ih => exact fun gathered devices h => ih _ _ (h.move rename)
  have hmoved := hgathers c.renames.toList _ _ (Gathers.start c) key
  rw [hostSwitchTargets, migrateTransportScopedKeys, Std.ExtTreeMap.getElem?_map, inheritedTargets, gathered]
  cases hdevice : (c.renames.toList.foldl moveEntry c.devices)[key]? with
  | none =>
    rw [hdevice] at hmoved
    split at hmoved
    · next hempty => rw [hempty]; rfl
    · cases hmoved
  | some device =>
    rw [hdevice] at hmoved
    split at hmoved
    · cases hmoved
    · rw [Option.map_some, Option.some.injEq] at hmoved
      rw [← hmoved]
      rfl

theorem migrate_wellFormed (h : c.TargetsWellFormed) :
    c.migrateTransportScopedKeys.TargetsWellFormed ↔ c.KeepsApart .migrate := by
  have hnodup : ∀ key, (c.inheritedTargets key).Nodup := by
    intro key
    obtain hempty | hmem := foldr_foldIfEmpty_mem ((c.gathered key).map c.hostSwitchTargets)
    · rw [inheritedTargets, hempty]
      exact List.nodup_nil
    · obtain ⟨origin, -, heq⟩ := List.mem_map.1 hmem
      rw [inheritedTargets, ← heq]
      exact (h origin).1
  simp only [TargetsWellFormed, KeepsApart, hostSwitchTargets_migrate, List.nodup_map_iff_inj_on (hnodup _),
    List.mem_map, not_exists, not_and]

/-- **The lists of a run stay well formed exactly when every edit keeps the keys of a list apart.** -/
theorem targets_wellFormed_iff (c : Config V) (h : c.TargetsWellFormed) (edits : List (Edit V)) :
    EveryState edit TargetsWellFormed c edits ↔ Along edit KeepsApart c edits := by
  refine everyState_iff_along TargetsWellFormed KeepsApart (fun c e c' hc hstep => ?_)
    (fun c e hnone => by cases e <;> cases hnone) edits c h
  cases e with
  | link keyboardKey targetKey =>
    cases hstep
    exact linkHostSwitchTarget_wellFormed hc keyboardKey targetKey
  | unlink keyboardKey targetKey =>
    cases hstep
    exact iff_of_true (unlinkHostSwitchTarget_wellFormed hc keyboardKey targetKey) trivial
  | adopt canonical routeKey capabilities =>
    cases hstep
    exact adoptRoute_wellFormed hc canonical routeKey capabilities
  | migrate =>
    cases hstep
    exact migrate_wellFormed hc

end

/-- A configuration of one keyboard. -/
theorem wellFormed_keyboard {keyboardKey : String} {device : DeviceConfig V} (h : device.hostSwitchTargets.Nodup)
    (hself : keyboardKey ∉ device.hostSwitchTargets) :
    ({ devices := (∅ : BTreeMap (DeviceConfig V)).insert keyboardKey device } : Config V).TargetsWellFormed := by
  intro key
  rw [hostSwitchTargets, BTreeMap.getElem?_insert]
  split
  · next heq =>
    subst heq
    exact ⟨h, hself⟩
  · rw [Std.ExtTreeMap.getElem?_empty]
    exact ⟨List.nodup_nil, List.not_mem_nil⟩

/-- A mouse that follows a keyboard by the key of its cable. -/
theorem targets_wellFormed_iff_cable :
    let keyboard : DeviceConfig Nat := { hostSwitchTargets := ["direct:046d:c08d:unit:6be9d300"] }
    let c : Config Nat := { devices := (∅ : BTreeMap (DeviceConfig Nat)).insert "serial:k9" keyboard }
    let edits : List (Edit Nat) := [.link "serial:k9" "serial:m1", .migrate, .unlink "serial:k9" "serial:m1"]
    EveryState edit TargetsWellFormed c edits ↔ Along edit KeepsApart c edits :=
  targets_wellFormed_iff _ (wellFormed_keyboard (by simp) (by simp)) _

/-- A mouse that follows a keyboard by the keys of its cable and its Bluetooth link is named twice by its identity. -/
theorem target_named_twice : ¬ ∀ (c : Config Nat) (edits : List (Edit Nat)), c.TargetsWellFormed →
    EveryState edit TargetsWellFormed c edits := by
  intro h
  let keyboard : DeviceConfig Nat :=
    { hostSwitchTargets := ["direct:046d:c08d:unit:6be9d300", "direct:046d:b034:unit:6be9d300"] }
  have hafter := h { devices := (∅ : BTreeMap (DeviceConfig Nat)).insert "serial:k9" keyboard } [.migrate]
    (wellFormed_keyboard (by simp [keyboard]) (by simp [keyboard])) [.migrate] _ (List.prefix_refl _) rfl "serial:k9"
  revert hafter
  decide +kernel

end Config

end Config
end OpenLogi
