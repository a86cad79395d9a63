import OpenLogi.Config.Identity
/-!
# Adoption — what adopting a route leaves

An adoption unlinks the route from every other entry, consumes the entry keyed by the route and repoints what named it:
`getElem?_adoptRoute_ne` and `getElem?_adoptRoute_self` say what is found under each key afterwards, and everything else
follows from them.
-/
namespace OpenLogi
namespace Config

open OpenLogi.Core (DeviceStableId PhysicalDeviceKey)

variable {V : Type}

theorem repointTarget_ne {old new : String} (h : old ≠ new) (target : String) : repointTarget old new target ≠ old := by
  unfold repointTarget
  split
  · exact h.symm
  · assumption

/-! ## One entry -/

namespace DeviceConfig

theorem mem_unlink (device : DeviceConfig V) (routeKey route : String) :
    route ∈ (device.unlink routeKey).links ↔ route ≠ routeKey ∧ route ∈ device.links :=
  BTreeMap.mem_erase device.links routeKey route

/-- An entry that does not claim the route. -/
theorem unlink_of_not_mem {device : DeviceConfig V} {routeKey : String} (h : routeKey ∉ device.links) :
    device.unlink routeKey = device := by
  have herase : device.links.erase routeKey = device.links := by
    refine Std.ExtTreeMap.ext_getElem? fun route => ?_
    rw [BTreeMap.getElem?_erase]
    split
    · next heq => rw [← heq, Std.ExtTreeMap.getElem?_eq_none h]
    · rfl
  rw [unlink, herase]

section
variable [DecidableEq V]

@[simp] theorem holdsSettings_unlink (device : DeviceConfig V) (routeKey : String) :
    (device.unlink routeKey).holdsSettings = device.holdsSettings := rfl

@[simp] theorem holdsSettings_repoint (device : DeviceConfig V) (old new : String) :
    (device.repoint old new).holdsSettings = device.holdsSettings := by
  simp only [holdsSettings, repoint, ne_eq, DeviceConfig.mk.injEq, List.map_eq_nil_iff]

/-- The entry records the route and what was measured on it. -/
def Sighted (device : DeviceConfig V) (routeKey : String) (capabilities : Option V) : Prop :=
  ∃ link, device.links[routeKey]? = some link ∧ (capabilities.isSome → link.capabilities = capabilities)

theorem mem_sight (device : DeviceConfig V) (routeKey route : String) (capabilities : Option V) :
    route ∈ (device.sight routeKey capabilities).2.links ↔ route = routeKey ∨ route ∈ device.links := by
  simp only [sight]
  exact BTreeMap.mem_insert ..

theorem sighted_sight (device : DeviceConfig V) (routeKey : String) (capabilities : Option V) :
    (device.sight routeKey capabilities).2.Sighted routeKey capabilities := by
  refine ⟨_, Std.ExtTreeMap.getElem?_insert_self, fun hsome => ?_⟩
  by_cases heq : (device.links[routeKey]?.getD {}).capabilities = capabilities
  · simp [heq]
  · simp [hsome, heq]

omit [DecidableEq V] in
theorem Sighted.mem {device : DeviceConfig V} {routeKey : String} {capabilities : Option V}
    (h : device.Sighted routeKey capabilities) : routeKey ∈ device.links := by
  obtain ⟨link, hlink, -⟩ := h
  exact Std.ExtTreeMap.mem_iff_isSome_getElem?.mpr (by rw [hlink]; rfl)

/-- A sighting that says nothing new. -/
theorem Sighted.sight {device : DeviceConfig V} {routeKey : String} {capabilities : Option V}
    (h : device.Sighted routeKey capabilities) : device.sight routeKey capabilities = (false, device) := by
  have hmem := h.mem
  obtain ⟨link, hlink, hcapabilities⟩ := h
  have hinsert : device.links.insert routeKey link = device.links := by
    refine Std.ExtTreeMap.ext_getElem? fun route => ?_
    rw [BTreeMap.getElem?_insert]
    split
    · next heq => rw [← heq, hlink]
    · rfl
  have hmeasured : (capabilities.isSome && link.capabilities ≠ capabilities) = false := by
    cases hsome : capabilities.isSome
    · rfl
    · simp [hcapabilities hsome]
  have hknown : device.links.contains routeKey = true := Std.ExtTreeMap.mem_iff_contains.mp hmem
  simp only [DeviceConfig.sight, hlink, Option.getD_some, hmeasured, hknown, Bool.false_eq_true, if_false, hinsert,
    Bool.not_true, Bool.or_self]

end

end DeviceConfig

section
variable [DecidableEq V]

theorem mem_fold (device legacy : DeviceConfig V) (routeKey route : String) :
    route ∈ (fold device legacy routeKey).links ↔ route = routeKey ∨ route ∈ device.links ∨ route ∈ legacy.links := by
  simp only [fold, foldMapField, BTreeMap.mem_insert, Std.ExtTreeMap.mem_union_iff]
  rw [or_comm (a := route ∈ legacy.links)]

/-- A fold keeps what the device measured itself. -/
theorem DeviceConfig.Sighted.fold {device : DeviceConfig V} {routeKey : String} {capabilities : Option V}
    (h : device.Sighted routeKey capabilities) (legacy : DeviceConfig V) :
    (fold device legacy routeKey).Sighted routeKey capabilities := by
  obtain ⟨link, hlink, hcapabilities⟩ := h
  refine ⟨_, Std.ExtTreeMap.getElem?_insert_self, fun hsome => ?_⟩
  have hours : (foldMapField device.links legacy.links)[routeKey]? = some link := by
    rw [foldMapField, Std.ExtTreeMap.getElem?_union, hlink]
    rfl
  simp only [hours, Option.getD_some, hcapabilities hsome]
  obtain ⟨value, rfl⟩ := Option.isSome_iff_exists.mp hsome
  rfl

end

/-! ## The entries afterwards -/

namespace Config

variable [DecidableEq V]

/-- The entry keyed by the route, which adopting the route consumes. -/
def legacyEntry (c : Config V) (canonical : PhysicalDeviceKey) (routeKey : String) : Option (DeviceConfig V) :=
  if routeKey ≠ canonical.asStr then c.devices[routeKey]? else none

/-- The entry of the canonical key after it was sighted. -/
def sightedEntry (c : Config V) (canonical : PhysicalDeviceKey) (routeKey : String) (capabilities : Option V) :
    DeviceConfig V :=
  ((c.devices[canonical.asStr]?.getD {}).sight routeKey capabilities).2

variable (c : Config V) (canonical : PhysicalDeviceKey) (routeKey : String) (capabilities : Option V)

/-- Another key's entry loses its claim to the route, and its references to a consumed entry are repointed. -/
theorem getElem?_adoptRoute_ne {key : String} (hkey : key ≠ canonical.asStr) :
    (c.adoptRoute canonical routeKey capabilities).2.devices[key]? =
      if key = routeKey then none
      else c.devices[key]?.map fun device =>
        if (c.legacyEntry canonical routeKey).isSome then (device.unlink routeKey).repoint routeKey canonical.asStr
        else device.unlink routeKey := by
  by_cases hroute : routeKey = canonical.asStr
  · have hne : key ≠ routeKey := fun heq => hkey (heq.trans hroute)
    simp [adoptRoute, legacyEntry, hroute, BTreeMap.getElem?_insert, Ne.symm hkey, hkey]
  · cases hlegacy : c.devices[routeKey]? with
    | none =>
      simp [adoptRoute, legacyEntry, hroute, hlegacy, BTreeMap.getElem?_insert, BTreeMap.getElem?_erase, Ne.symm hkey,
        hkey, eq_comm (a := routeKey)]
    | some legacy =>
      simp [adoptRoute, legacyEntry, repointReferences, hroute, hlegacy, BTreeMap.getElem?_insert,
        BTreeMap.getElem?_erase, Ne.symm hkey, hkey, eq_comm (a := routeKey)]
      split
      · rfl
      · rw [Option.map_map]
        rfl

theorem getElem?_adoptRoute_self :
    (c.adoptRoute canonical routeKey capabilities).2.devices[canonical.asStr]? =
      some (match c.legacyEntry canonical routeKey with
        | none => c.sightedEntry canonical routeKey capabilities
        | some legacy =>
          (fold (c.sightedEntry canonical routeKey capabilities) (legacy.unlink routeKey) routeKey).repoint routeKey
            canonical.asStr) := by
  by_cases hroute : routeKey = canonical.asStr
  · simp [adoptRoute, legacyEntry, sightedEntry, hroute]
  · cases hlegacy : c.devices[routeKey]? with
    | none =>
      simp [adoptRoute, legacyEntry, sightedEntry, hroute, hlegacy, BTreeMap.getElem?_erase]
    | some legacy =>
      simp [adoptRoute, legacyEntry, sightedEntry, repointReferences, hroute, hlegacy, BTreeMap.getElem?_erase]

theorem selectedDevice_adoptRoute :
    (c.adoptRoute canonical routeKey capabilities).2.selectedDevice =
      if (c.legacyEntry canonical routeKey).isSome then c.selectedDevice.map (repointTarget routeKey canonical.asStr)
      else c.selectedDevice := by
  by_cases hroute : routeKey = canonical.asStr
  · simp [adoptRoute, legacyEntry, hroute]
  · cases hlegacy : c.devices[routeKey]? <;> simp [adoptRoute, legacyEntry, repointReferences, hroute, hlegacy]

variable {device : DeviceConfig V}

/-- The routes of the canonical entry: the adopted one, its own, and those of a consumed entry. -/
theorem adopted_links {route : String}
    (h : (c.adoptRoute canonical routeKey capabilities).2.devices[canonical.asStr]? = some device)
    (hroute : route ∈ device.links) :
    route = routeKey ∨ ∃ key entry, c.devices[key]? = some entry ∧ route ∈ entry.links ∧
      (key = canonical.asStr ∨ key = routeKey) := by
  rw [getElem?_adoptRoute_self, Option.some.injEq] at h
  have hsighted : route ∈ (c.sightedEntry canonical routeKey capabilities).links → route = routeKey ∨
      ∃ entry, c.devices[canonical.asStr]? = some entry ∧ route ∈ entry.links := by
    intro hmem
    obtain heq | hmem := (DeviceConfig.mem_sight _ _ _ _).mp hmem
    · exact .inl heq
    · cases hentry : c.devices[canonical.asStr]? with
      | none => simp [hentry] at hmem
      | some entry => exact .inr ⟨entry, rfl, by simpa [hentry] using hmem⟩
  cases hlegacy : c.legacyEntry canonical routeKey with
  | none =>
    rw [hlegacy] at h
    subst h
    obtain heq | ⟨entry, hentry, hmem⟩ := hsighted hroute
    · exact .inl heq
    · exact .inr ⟨_, entry, hentry, hmem, .inl rfl⟩
  | some legacy =>
    rw [hlegacy] at h
    subst h
    have hmem : route ∈ (fold _ _ _).links := hroute
    rw [mem_fold, DeviceConfig.mem_unlink] at hmem
    obtain heq | hmem | ⟨-, hmem⟩ := hmem
    · exact .inl heq
    · obtain heq | ⟨entry, hentry, hmem⟩ := hsighted hmem
      · exact .inl heq
      · exact .inr ⟨_, entry, hentry, hmem, .inl rfl⟩
    · have hentry : c.devices[routeKey]? = some legacy := by
        simp only [legacyEntry, ne_eq, ite_not] at hlegacy
        split at hlegacy
        · cases hlegacy
        · exact hlegacy
      exact .inr ⟨_, legacy, hentry, hmem, .inr rfl⟩

/-- The canonical entry records the route and what was measured on it. -/
theorem adopted_sighted : ∃ device, (c.adoptRoute canonical routeKey capabilities).2.devices[canonical.asStr]? =
    some device ∧ device.Sighted routeKey capabilities := by
  have hsighted := DeviceConfig.sighted_sight (c.devices[canonical.asStr]?.getD {}) routeKey capabilities
  refine ⟨_, getElem?_adoptRoute_self c canonical routeKey capabilities, ?_⟩
  cases c.legacyEntry canonical routeKey with
  | none => exact hsighted
  | some legacy => exact hsighted.fold (legacy.unlink routeKey)

/-- No other entry claims the route. -/
theorem adopted_not_mem {key : String} (hkey : key ≠ canonical.asStr)
    (h : (c.adoptRoute canonical routeKey capabilities).2.devices[key]? = some device) :
    key ≠ routeKey ∧ routeKey ∉ device.links ∧
      ∃ entry, c.devices[key]? = some entry ∧ (∀ route ∈ device.links, route ∈ entry.links) ∧
        device.holdsSettings = entry.holdsSettings := by
  rw [getElem?_adoptRoute_ne c canonical routeKey capabilities hkey] at h
  split at h
  · cases h
  · next hne =>
    obtain ⟨entry, hentry, rfl⟩ := Option.map_eq_some_iff.mp h
    have hlinks : ∀ route, route ∈ (if (c.legacyEntry canonical routeKey).isSome then
        (entry.unlink routeKey).repoint routeKey canonical.asStr else entry.unlink routeKey).links ↔
          route ≠ routeKey ∧ route ∈ entry.links := by
      intro route
      split <;> exact DeviceConfig.mem_unlink entry routeKey route
    refine ⟨hne, fun hmem => ((hlinks routeKey).mp hmem).1 rfl, entry, hentry,
      fun route hmem => ((hlinks route).mp hmem).2, ?_⟩
    split <;> simp

/-! ## What the adoption settles -/

/-- **An adoption leaves every route with one owner.** -/
theorem adoptRoute_oneOwner (h : c.OneOwner) : (c.adoptRoute canonical routeKey capabilities).2.OneOwner := by
  intro route a b da db ha hb hra hrb
  -- the canonical entry against another one
  have hcanonical : ∀ {b : String} {da db : DeviceConfig V}, b ≠ canonical.asStr →
      (c.adoptRoute canonical routeKey capabilities).2.devices[canonical.asStr]? = some da →
      (c.adoptRoute canonical routeKey capabilities).2.devices[b]? = some db → route ∈ da.links → route ∈ db.links →
      False := by
    intro b da db hb ha hdb hra hrb
    obtain ⟨hne, hnot, entry, hentry, hsub, -⟩ := adopted_not_mem c canonical routeKey capabilities hb hdb
    obtain rfl | ⟨key, other, hother, hmem, hkey⟩ := adopted_links c canonical routeKey capabilities ha hra
    · exact hnot hrb
    · have heq : key = b := h route key b other entry hother hentry hmem (hsub route hrb)
      obtain rfl | rfl := hkey
      · exact hb heq.symm
      · exact hne heq.symm
  by_cases hakey : a = canonical.asStr <;> by_cases hbkey : b = canonical.asStr
  · rw [hakey, hbkey]
  · subst hakey
    exact (hcanonical hbkey ha hb hra hrb).elim
  · subst hbkey
    exact (hcanonical hakey hb ha hrb hra).elim
  · obtain ⟨-, -, ea, hea, hsuba, -⟩ := adopted_not_mem c canonical routeKey capabilities hakey ha
    obtain ⟨-, -, eb, heb, hsubb, -⟩ := adopted_not_mem c canonical routeKey capabilities hbkey hb
    exact h route a b ea eb hea heb (hsuba route hra) (hsubb route hrb)

/-- **A consumed entry is named nowhere.** -/
theorem adoptRoute_references (hne : routeKey ≠ canonical.asStr) (h : c.devices.contains routeKey = true) :
    (c.adoptRoute canonical routeKey capabilities).2.selectedDevice ≠ some routeKey ∧
      ∀ (key : String) (device : DeviceConfig V),
        (c.adoptRoute canonical routeKey capabilities).2.devices[key]? = some device →
          routeKey ∉ device.hostSwitchTargets := by
  obtain ⟨legacy, hlegacy⟩ := Option.isSome_iff_exists.mp (Std.ExtTreeMap.contains_eq_isSome_getElem?.symm.trans h)
  have hentry : c.legacyEntry canonical routeKey = some legacy := by rw [legacyEntry, if_pos hne, hlegacy]
  have hrepointed : ∀ device : DeviceConfig V,
      routeKey ∉ (device.repoint routeKey canonical.asStr).hostSwitchTargets := by
    intro device hmem
    obtain ⟨target, -, heq⟩ := List.mem_map.mp hmem
    exact repointTarget_ne hne target heq
  refine ⟨?_, fun key device hdevice => ?_⟩
  · rw [selectedDevice_adoptRoute, hentry, Option.isSome_some, if_pos rfl]
    intro hselected
    obtain ⟨target, -, heq⟩ := Option.map_eq_some_iff.mp hselected
    exact repointTarget_ne hne target heq
  · by_cases hkey : key = canonical.asStr
    · rw [hkey, getElem?_adoptRoute_self, hentry, Option.some.injEq] at hdevice
      subst hdevice
      exact hrepointed _
    · rw [getElem?_adoptRoute_ne c canonical routeKey capabilities hkey, hentry] at hdevice
      split at hdevice
      · cases hdevice
      · obtain ⟨entry, -, rfl⟩ := Option.map_eq_some_iff.mp hdevice
        exact hrepointed _

/-- Adopting a route whose entry records it, and which nothing else claims, changes nothing. -/
theorem adoptRoute_of_sighted (hdevice : c.devices[canonical.asStr]? = some device)
    (hsighted : device.Sighted routeKey capabilities)
    (hothers : ∀ (key : String) (other : DeviceConfig V), key ≠ canonical.asStr → c.devices[key]? = some other →
      key ≠ routeKey ∧ routeKey ∉ other.links) :
    c.adoptRoute canonical routeKey capabilities = (false, c) := by
  have hstale := no_stale_route fun key other hkey hother => (hothers key other hkey hother).2
  have hunlink : (c.devices.map fun other device =>
      if other ≠ canonical.asStr then device.unlink routeKey else device) = c.devices := by
    refine Std.ExtTreeMap.ext_getElem? fun key => ?_
    rw [Std.ExtTreeMap.getElem?_map]
    cases hother : c.devices[key]? with
    | none => rfl
    | some other =>
      rw [Option.map_some, Option.some.injEq]
      split
      · next hkey => exact DeviceConfig.unlink_of_not_mem (hothers key other hkey hother).2
      · rfl
  have hroute : routeKey ≠ canonical.asStr → c.devices[routeKey]? = none := by
    intro hne
    refine Option.eq_none_iff_forall_ne_some.mpr fun other hother => ?_
    exact (hothers routeKey other hne hother).1 rfl
  have hlegacy : (if routeKey ≠ canonical.asStr then c.devices[routeKey]? else none) = none := by
    split
    · next hne => exact hroute hne
    · rfl
  have herase : (if routeKey ≠ canonical.asStr then c.devices.erase routeKey else c.devices) = c.devices := by
    split
    · next hne =>
      refine Std.ExtTreeMap.ext_getElem? fun key => ?_
      rw [BTreeMap.getElem?_erase]
      split
      · next heq => rw [← heq, hroute hne]
      · rfl
    · rfl
  have hinsert : c.devices.insert canonical.asStr device = c.devices := by
    refine Std.ExtTreeMap.ext_getElem? fun key => ?_
    rw [BTreeMap.getElem?_insert]
    split
    · next heq => rw [← heq, hdevice]
    · rfl
  simp only [adoptRoute, hstale, hunlink, hlegacy, herase, hdevice, Option.getD_some, hsighted.sight, hinsert,
    Bool.or_self]

theorem adoptRoute_again :
    (c.adoptRoute canonical routeKey capabilities).2.adoptRoute canonical routeKey capabilities =
      (false, (c.adoptRoute canonical routeKey capabilities).2) := by
  obtain ⟨device, hdevice, hsighted⟩ := adopted_sighted c canonical routeKey capabilities
  refine adoptRoute_of_sighted _ canonical routeKey capabilities hdevice hsighted fun key other hkey hother => ?_
  obtain ⟨hne, hnot, -⟩ := adopted_not_mem c canonical routeKey capabilities hkey hother
  exact ⟨hne, hnot⟩

end Config

namespace Config

variable [DecidableEq V]

/-- The pre-upgrade key of a cabled device, which its route does not name. -/
def preUpgradeKey : DeviceStableId → Option PhysicalDeviceKey
  | .direct vendorId productId identity => (DeviceStableId.direct vendorId productId identity).physicalKey
  | _ => none

/-- The settings that could outrank the identity sit under the pre-upgrade key or under the route. -/
theorem physicalKey_asStr {stable : DeviceStableId} {legacy : PhysicalDeviceKey}
    (h : stable.physicalKey = some legacy) : legacy.asStr = stable.routeKey ∨ preUpgradeKey stable = some legacy := by
  cases stable with
  | direct _ _ _ => exact .inr h
  | bolt _ _ =>
    simp only [DeviceStableId.physicalKey, Option.some.injEq] at h
    exact .inl (h ▸ rfl)
  | rawHid _ _ _ _ _ | unknown _ _ =>
    simp only [DeviceStableId.physicalKey] at h
    split at h
    · exact .inl (Option.some.inj h ▸ rfl)
    · cases h

variable {identity : Core.DeviceIdentity}

theorem configKey_of_physical (h : identity.isPhysical = true) :
    identity.configKey = some identity.key := by
  simp [Core.DeviceIdentity.configKey, h]

/-- **The identity of a device finds its entry**, unless a route-derived key still holds settings. -/
theorem resolve_awake (c : Config V) {stable : DeviceStableId} (h : identity.isPhysical = true)
    (hlegacy : ∀ legacy, stable.physicalKey = some legacy → legacy.asStr ≠ identity.key →
      c.holdsSettings legacy.asStr = false) :
    c.resolveDeviceKey stable (some identity) = some ⟨identity.key⟩ := by
  simp only [resolveDeviceKey, Option.bind_some, configKey_of_physical h, Core.DeviceIdentity.parse_key h]
  split
  · next legacy heq =>
    obtain ⟨hphysical, hne⟩ := Option.filter_eq_some_iff.mp heq
    rw [hlegacy legacy hphysical (by simpa using hne), Bool.and_false, if_neg (by simp)]
  · rfl

theorem canonicalDeviceKey_of_physical (stable : DeviceStableId) (h : identity.isPhysical = true) :
    canonicalDeviceKey stable (some identity) = some ⟨identity.key⟩ := by
  simp [canonicalDeviceKey, configKey_of_physical h, Core.DeviceIdentity.parse_key h]

/-- The settings of an entry that is neither consumed nor canonical are where they were. -/
theorem holdsSettings_adoptRoute (c : Config V) (canonical : PhysicalDeviceKey) (routeKey : String)
    (capabilities : Option V) {key : String} (hkey : key ≠ canonical.asStr)
    (h : key = routeKey ∨ c.holdsSettings key = false) :
    (c.adoptRoute canonical routeKey capabilities).2.holdsSettings key = false := by
  unfold holdsSettings
  cases hdevice : (c.adoptRoute canonical routeKey capabilities).2.devices[key]? with
  | none => rfl
  | some device =>
    obtain ⟨hne, -, entry, hentry, -, hholds⟩ := adopted_not_mem c canonical routeKey capabilities hkey hdevice
    obtain heq | h := h
    · exact absurd heq hne
    · simpa [holdsSettings, hentry, hholds] using h

/-- **Adopting a route settles the keys of its device**, whatever was found under its own key, under the route's and
under any other. -/
theorem adoptRoute_settles (c : Config V) (h : c.OneOwner) (stable : DeviceStableId) (identity : Core.DeviceIdentity)
    (hphysical : identity.isPhysical = true) (capabilities : Option V) :
    ∃ canonical, canonicalDeviceKey stable (some identity) = some canonical ∧
      let adopted := (c.adoptRoute canonical stable.routeKey capabilities).2
      adopted.OneOwner ∧
      ((∀ legacy, preUpgradeKey stable = some legacy → legacy ≠ canonical → c.holdsSettings legacy.asStr = false) →
        adopted.resolveDeviceKey stable (some identity) = some canonical) ∧
      adopted.resolveDeviceKey stable none = some canonical ∧
      (c.devices.contains stable.routeKey = true → adopted.selectedDevice ≠ some stable.routeKey ∧
        ∀ (key : String) (device : DeviceConfig V), adopted.devices[key]? = some device →
          stable.routeKey ∉ device.hostSwitchTargets) ∧
      adopted.adoptRoute canonical stable.routeKey capabilities = (false, adopted) := by
  have hne : stable.routeKey ≠ identity.key := stable.routeKey_ne_key identity
  refine ⟨⟨identity.key⟩, canonicalDeviceKey_of_physical stable hphysical, ?_⟩
  have hone := adoptRoute_oneOwner c ⟨identity.key⟩ stable.routeKey capabilities h
  refine ⟨hone, fun hlegacy => ?_, ?_, adoptRoute_references c ⟨identity.key⟩ stable.routeKey capabilities hne,
    adoptRoute_again c ⟨identity.key⟩ stable.routeKey capabilities⟩
  · refine resolve_awake _ hphysical fun legacy heq hkey => ?_
    refine holdsSettings_adoptRoute c ⟨identity.key⟩ stable.routeKey capabilities hkey ?_
    exact (physicalKey_asStr heq).imp_right fun hpre => hlegacy legacy hpre fun hcanonical => hkey (hcanonical ▸ rfl)
  · obtain ⟨device, hdevice, hsighted⟩ := adopted_sighted c ⟨identity.key⟩ stable.routeKey capabilities
    refine (resolve_asleep hone hdevice hsighted.mem).trans ?_
    rw [Core.DeviceIdentity.parse_key hphysical, Option.some_or]

/-- A mouse on the second slot of a receiver, with settings under the slot, which another entry still indexes. -/
theorem adoptRoute_settles_slot :
    let stable : DeviceStableId := .bolt "a1b2" 2
    let c : Config Nat := {
      selectedDevice := some "receiver:a1b2:slot:2"
      devices := ((∅ : BTreeMap (DeviceConfig Nat)).insert "receiver:a1b2:slot:2" { dpi := some 800 }).insert
        "serial:k9" { links := (∅ : BTreeMap (LinkConfig Nat)).insert "receiver:a1b2:slot:2" {},
                      hostSwitchTargets := ["receiver:a1b2:slot:2"] } }
    ∃ canonical, canonicalDeviceKey stable (some (.serial "m1")) = some canonical ∧
      let adopted := (c.adoptRoute canonical stable.routeKey (some 7)).2
      adopted.OneOwner ∧
      ((∀ legacy, preUpgradeKey stable = some legacy → legacy ≠ canonical → c.holdsSettings legacy.asStr = false) →
        adopted.resolveDeviceKey stable (some (.serial "m1")) = some canonical) ∧
      adopted.resolveDeviceKey stable none = some canonical ∧
      (c.devices.contains stable.routeKey = true → adopted.selectedDevice ≠ some stable.routeKey ∧
        ∀ (key : String) (device : DeviceConfig Nat), adopted.devices[key]? = some device →
          stable.routeKey ∉ device.hostSwitchTargets) ∧
      adopted.adoptRoute canonical stable.routeKey (some 7) = (false, adopted) := by
  -- one entry alone indexes a route
  have hindexed : ∀ (key route : String) (device : DeviceConfig Nat),
      (((∅ : BTreeMap (DeviceConfig Nat)).insert "receiver:a1b2:slot:2" { dpi := some 800 }).insert
        "serial:k9" { links := (∅ : BTreeMap (LinkConfig Nat)).insert "receiver:a1b2:slot:2" {},
                      hostSwitchTargets := ["receiver:a1b2:slot:2"] })[key]? = some device →
        route ∈ device.links → key = "serial:k9" := by
    intro key route device hdevice hmem
    rw [BTreeMap.getElem?_insert, BTreeMap.getElem?_insert] at hdevice
    split at hdevice
    · next heq => exact heq.symm
    · split at hdevice
      · cases hdevice
        simp at hmem
      · simp at hdevice
  refine adoptRoute_settles _ (fun route a b da db ha hb hra hrb => ?_) _ _ (by decide) _
  rw [hindexed a route da ha hra, hindexed b route db hb hrb]

end Config

end Config
end OpenLogi
