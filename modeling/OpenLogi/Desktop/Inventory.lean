import OpenLogi.Config.Identity
import OpenLogi.Lib.Sweep
/-!
# Inventory — the device list of the settings app

A refresh edits the configuration, merges the list and drops the sessions of devices that are gone, and only then saves.
`refreshInventories` is the refresh as far as that save; what a refresh whose save went through shows is `shown`.
-/
namespace OpenLogi
namespace Desktop

open OpenLogi.Config (BTreeMap Config)
open OpenLogi.Core (DeviceStableId PhysicalDeviceKey stripPrefix splitOnce)
open OpenLogi.Flow (DeviceKind)
open OpenLogi.Hid (DeviceRoute hex4)

variable {V S : Type}

/-- A device of the list.  `model` is what an identity holds beside the capabilities, `modelId` the first id of the
model information. -/
structure DeviceRecord (V : Type) where
  configKey : String
  canonicalKey : Option String
  persistent : Bool
  routeKey : String
  modelKey : String
  modelName : String
  model : V
  modelId : Option UInt16
  serialNumber : Option String
  unitId : Flow.Bytes 4
  route : Option DeviceRoute
  captureId : Option String
  kind : DeviceKind
  capabilities : Option V
  lightCapabilities : Option V
  slot : UInt8
  online : Bool
  stalePairings : List DeviceRoute
  deriving DecidableEq

namespace DeviceRecord

def persistentConfigKey (record : DeviceRecord V) : Option String :=
  if record.persistent then some record.configKey else none

/-- The key a source is found by across snapshots: two cameras of one model may share a configuration key. -/
def inventoryKey (record : DeviceRecord V) : String :=
  match record.captureId.filter (· ≠ "") with
  | some id => if record.kind = .camera then s!"cam-live:{id}" else record.configKey
  | none => record.configKey

/-- The wire product of a record: the id of its model, or the one its model key names. -/
def wirePid (record : DeviceRecord V) : Option String :=
  match record.modelId.filter (· ≠ 0) with
  | some pid => some (hex4 pid)
  | none => (stripPrefix "wpid" record.modelKey).map String.toLower

end DeviceRecord

/-- The `direct:<vid>:<pid>` prefix of a direct key. -/
def directKeyPrefix (key : String) : Option String := do
  let rest ← stripPrefix "direct:" key
  let (vid, rest) ← splitOnce ':' rest.toList
  let (pid, identity) ← splitOnce ':' rest
  if !vid.isEmpty && !pid.isEmpty && !identity.isEmpty then
    some s!"direct:{String.ofList vid}:{String.ofList pid}"
  else none

/-- A transient record folded into the known card it physically is. -/
def adoptTransientRecord (known live : DeviceRecord V) : DeviceRecord V where
  configKey := known.configKey
  canonicalKey := live.canonicalKey.or known.canonicalKey
  persistent := true
  routeKey := live.routeKey
  modelKey := known.modelKey
  modelName := known.modelName
  model := known.model
  modelId := known.modelId.or live.modelId
  serialNumber := known.serialNumber.or live.serialNumber
  unitId := known.unitId
  route := live.route
  captureId := live.captureId.or known.captureId
  kind := if known.kind = .unknown then live.kind else known.kind
  capabilities := live.capabilities.or known.capabilities
  lightCapabilities := live.lightCapabilities.or known.lightCapabilities
  slot := live.slot
  online := live.online
  stalePairings := live.stalePairings

/-- The values of a map, in the order of its keys. -/
def values {α : Type} (map : BTreeMap α) : List α := map.toList.map Prod.snd

/-- One record for each inventory key: an online one wins over a sleeping one, or else the later. -/
def foldByInventoryKey (list : List (DeviceRecord V)) : BTreeMap (DeviceRecord V) :=
  list.foldl (fun byKey record =>
    match byKey[record.inventoryKey]? with
    | none => byKey.insert record.inventoryKey record
    | some held =>
      let stale := held.stalePairings ++ record.stalePairings
      byKey.insert record.inventoryKey
        (if record.online || !held.online then { record with stalePairings := stale }
        else { held with stalePairings := stale })) ∅

/-! ## The state -/

/-- What the session knows of a device: the snapshots in a row that left it out, and all the rest. -/
structure DeviceSession (S : Type) where
  inventoryMisses : Nat := 0
  rest : S

instance [Inhabited S] : Inhabited (DeviceSession S) := ⟨{ rest := default }⟩

/-- The catalog; a session is filed under the configuration key of its device. -/
structure DeviceStore (V S : Type) where
  selected : Option Nat
  records : List (DeviceRecord V)
  sessions : BTreeMap (DeviceSession S)

inductive ConfigPersistence where
  | userFile
  | readOnly
  | memoryOnly
  deriving DecidableEq

structure ConfigState (V : Type) where
  current : Config V
  persisted : Config V
  persistence : ConfigPersistence

/-- Whether a save lands, where a write of the file ends as `written`. -/
def ConfigState.lands (c : ConfigState V) (written : Bool) : Bool :=
  match c.persistence with
  | .userFile => written
  | .readOnly => false
  | .memoryOnly => true

/-- `ConfigState::persist`: a save that does not land puts the last one back. -/
def ConfigState.persist (c : ConfigState V) (written : Bool) : Bool × ConfigState V :=
  if c.lands written then (true, { c with persisted := c.current }) else (false, { c with current := c.persisted })

structure AppState (V S : Type) where
  config : ConfigState V
  devices : DeviceStore V S

/-! ## Merging a snapshot -/

def INVENTORY_MISS_GRACE : Nat := 2

/-- `same_wire` of `adopt_transient_records`. -/
def sameWire (config : Config V) (pre : String) (transientWirePid : Option String) (record : DeviceRecord V) : Bool :=
  record.persistent && (record.routeKey = pre ||
    config.devices[record.configKey]?.any (fun device => device.links.contains pre) ||
    transientWirePid.isSome && record.wirePid = transientWirePid)

/-- The known cards a transient record may be. -/
def candidates (config : Config V) (records : List (DeviceRecord V)) (byKey : BTreeMap (DeviceRecord V)) (pre : String)
    (transientWirePid : Option String) : List String :=
  let asleep :=
    (byKey.toList.filter fun (_, record) => sameWire config pre transientWirePid record && !record.online).map Prod.fst
  records.foldl (fun known previous =>
    if sameWire config pre transientWirePid previous && !byKey.contains previous.configKey
      && !known.contains previous.configKey then known ++ [previous.configKey] else known) asleep

/-- One turn of the loop of `adopt_transient_records`, on the snapshot and the adopted records. -/
def adoptTransient (config : Config V) (records : List (DeviceRecord V))
    (maps : BTreeMap (DeviceRecord V) × BTreeMap (DeviceRecord V)) (transient : String × Option String) :
    BTreeMap (DeviceRecord V) × BTreeMap (DeviceRecord V) :=
  let (byKey, adopted) := maps
  let (key, wirePid) := transient
  match directKeyPrefix key with
  | none => maps
  | some pre =>
    match candidates config records byKey pre wirePid with
    | [knownKey] =>
      match (records.find? fun record => record.configKey = knownKey).or byKey[knownKey]? with
      | none => maps
      | some known =>
        let byKey := byKey.erase knownKey
        match byKey[key]? with
        | some live => (byKey.erase key, adopted.insert knownKey (adoptTransientRecord known live))
        | none => (byKey, adopted)
    | [] =>
      if (values byKey).any fun record => sameWire config pre wirePid record && record.online then
        (byKey.erase key, adopted)
      else maps
    | _ => maps

/-- What is left of a snapshot once its transient records are paired with the devices they are, and those pairs. -/
def adoptTransientRecords (config : Config V) (records : List (DeviceRecord V)) (byKey : BTreeMap (DeviceRecord V)) :
    BTreeMap (DeviceRecord V) × BTreeMap (DeviceRecord V) :=
  (((values byKey).filter fun record => !record.persistent).map fun record => (record.configKey, record.wirePid)).foldl
    (adoptTransient config records) (byKey, ∅)

def clearInventoryMisses (sessions : BTreeMap (DeviceSession S)) (key : String) : BTreeMap (DeviceSession S) :=
  match sessions[key]? with
  | some entry => sessions.insert key { entry with inventoryMisses := 0 }
  | none => sessions

structure Merge (V S : Type) where
  byKey : BTreeMap (DeviceRecord V)
  adopted : BTreeMap (DeviceRecord V)
  sessions : BTreeMap (DeviceSession S)
  merged : List (DeviceRecord V) := []

/-- A record the snapshot does not hold that gets no grace: a leftover slot, a transient or a camera. -/
def leftOut (foldedRoutes : List DeviceRoute) (previous : DeviceRecord V) : Bool :=
  previous.route.any foldedRoutes.contains || !previous.persistent || previous.kind = .camera

variable [Inhabited S]

/-- The loop of `merge_inventory_snapshot` on one card of the list shown. -/
def Merge.visit (foldedRoutes : List DeviceRoute) (m : Merge V S) (previous : DeviceRecord V) : Merge V S :=
  let inv := previous.inventoryKey
  let key := previous.configKey
  match m.byKey[inv]? with
  | some record =>
    { m with
      byKey := m.byKey.erase inv
      sessions := clearInventoryMisses m.sessions key
      merged := m.merged ++ [record] }
  | none =>
    match m.adopted[inv]? with
    | some record =>
      { m with
        adopted := m.adopted.erase inv
        sessions := clearInventoryMisses m.sessions key
        merged := m.merged ++ [record] }
    | none =>
      if leftOut foldedRoutes previous then { m with sessions := clearInventoryMisses m.sessions key }
      else
        let entry := m.sessions[key]?.getD default
        let misses := min 255 (entry.inventoryMisses + 1)
        { m with
          sessions := m.sessions.insert key { entry with inventoryMisses := misses }
          merged := if misses ≤ INVENTORY_MISS_GRACE then m.merged ++ [previous] else m.merged }

/-- The records of a snapshot that go on the list: what is left of it, and the adopted ones. -/
def sightings (config : Config V) (records newList : List (DeviceRecord V)) :
    BTreeMap (DeviceRecord V) × BTreeMap (DeviceRecord V) :=
  adoptTransientRecords config records (foldByInventoryKey newList)

/-- The order of the gallery is not modelled: `order` puts the list in it. -/
def mergeInventorySnapshot (order : List (DeviceRecord V) → List (DeviceRecord V)) (s : AppState V S)
    (newList : List (DeviceRecord V)) : AppState V S × List (DeviceRecord V) :=
  let (byKey, adopted) := sightings s.config.current s.devices.records newList
  let foldedRoutes := (values byKey).flatMap (·.stalePairings)
  let m := s.devices.records.foldl (Merge.visit foldedRoutes)
    { byKey, adopted, sessions := s.devices.sessions }
  let sessions := (values m.byKey).foldl (fun sessions record => clearInventoryMisses sessions record.configKey)
    m.sessions
  let merged := m.merged ++ values m.byKey ++ values m.adopted
  let live := merged.map (·.configKey)
  ({ s with devices := { s.devices with sessions := sessions.filter fun key _ => live.contains key } }, order merged)

/-- A paired device of an inventory, as the list is built from it. -/
structure PairedDevice (V : Type) where
  modelKey : String
  modelName : String
  model : V
  modelId : Option UInt16
  serialNumber : Option String
  unitId : Flow.Bytes 4
  route : Option DeviceRoute
  kind : DeviceKind
  capabilities : Option V
  slot : UInt8
  online : Bool

/-- The record `build_device_list` makes of a paired device. -/
def pairedRecord [DecidableEq V] (config : Config V) (paired : PairedDevice V) : DeviceRecord V :=
  let stableId := DeviceStableId.fromParts paired.route paired.slot paired.serialNumber paired.unitId
  let identity := if paired.online then some (Core.DeviceIdentity.fromParts paired.serialNumber paired.unitId) else none
  let key := config.resolveDeviceKey stableId identity
  { configKey := key.elim stableId.runtimeKey PhysicalDeviceKey.asStr
    canonicalKey := (OpenLogi.Config.canonicalDeviceKey stableId identity).map PhysicalDeviceKey.asStr
    persistent := key.isSome
    routeKey := stableId.routeKey
    modelKey := paired.modelKey
    modelName := paired.modelName
    model := paired.model
    modelId := paired.modelId
    serialNumber := paired.serialNumber
    unitId := paired.unitId
    route := paired.route
    captureId := none
    kind := paired.kind
    capabilities := paired.capabilities
    lightCapabilities := none
    slot := paired.slot
    online := paired.online
    stalePairings := [] }

/-! ## The refresh -/

section
variable [DecidableEq V]

/-- Whether a record is reached by a route of its own: two online records on one route own it neither. -/
def ownsRoute (list : List (DeviceRecord V)) (record : DeviceRecord V) : Bool :=
  record.persistent && record.online &&
    (list.filter fun other => other.persistent && other.online && other.routeKey = record.routeKey).length ≤ 1

/-- Fold every online record's route into its canonical entry; whether an entry changed. -/
def adoptRoutes (config : Config V) (list : List (DeviceRecord V)) : Bool × Config V :=
  list.foldl (fun (adopted, config) record =>
    if ownsRoute list record then
      match PhysicalDeviceKey.parse (record.canonicalKey.getD record.configKey) with
      | some key =>
        let (changed, config) := config.adoptRoute key record.routeKey record.capabilities
        (adopted || changed, config)
      | none => (adopted, config)
    else (adopted, config)) (false, config)

/-- Record the identity of every online record that was measured; whether one changed. -/
def persistIdentities [Inhabited V] (config : Config V) (list : List (DeviceRecord V)) : Bool × Config V :=
  list.foldl (fun (changed, config) record =>
    match record.persistentConfigKey with
    | some key =>
      if record.online && (record.lightCapabilities.isSome || record.capabilities.isSome) then
        let identity : OpenLogi.Config.DeviceIdentity V := ⟨record.capabilities.getD default, record.model⟩
        let device := config.devices[key]?.getD {}
        if config.devices[key]?.bind (·.identity) ≠ some identity then
          (true, { config with devices := config.devices.insert key { device with identity := some identity } })
        else (changed, config)
      else (changed, config)
    | none => (changed, config)) (false, config)

/-- The part of the app a refresh shows through: the list it builds from a configuration and the snapshot, the order
of the gallery, and what it does with a merged list once nothing is left to save. -/
structure View (V S : Type) where
  buildDeviceList : Config V → List (DeviceRecord V)
  order : List (DeviceRecord V) → List (DeviceRecord V)
  shown : AppState V S → List (DeviceRecord V) → AppState V S

/-- `AppState::refresh_inventories`. -/
def refreshInventories [Inhabited V] (view : View V S) (written : Bool) (s : AppState V S) : AppState V S :=
  let newList := view.buildDeviceList s.config.current
  let (adopted, current) := adoptRoutes s.config.current newList
  let newList := if adopted then view.buildDeviceList current else newList
  let s := { s with config := { s.config with current } }
  let (s, mergedList) := mergeInventorySnapshot view.order s newList
  let (identitiesChanged, current) := persistIdentities s.config.current mergedList
  let s := { s with config := { s.config with current } }
  if adopted then
    match s.config.persist written with
    | (true, config) => view.shown { s with config } mergedList
    | (false, config) => { s with config }
  else if identitiesChanged then view.shown { s with config := (s.config.persist written).2 } mergedList
  else view.shown s mergedList

end

end Desktop
end OpenLogi
