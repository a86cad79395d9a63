import OpenLogi.Agent.Orchestrator
/-!
# Inventory — the device list of a snapshot

`buildDevices` keeps what has a model and a key, in the order of the device carousel.
-/
namespace OpenLogi
namespace Agent

open OpenLogi.Core
open OpenLogi.Flow (DeviceKind)
open Hid (DeviceRoute hex4)

/-! ## A snapshot -/

structure ReceiverInfo where
  vendorId : UInt16
  productId : UInt16
  uniqueId : Option String

structure DeviceModelInfo where
  serialNumber : Option String
  unitId : Flow.Bytes 4
  modelIds : UInt16 × UInt16 × UInt16
  extendedModelId : UInt8

/-- The key of a model in the asset registry. -/
def DeviceModelInfo.modelKey (model : DeviceModelInfo) : String :=
  String.ofList (Nat.toDigits 16 model.extendedModelId.toNat) ++ hex4 model.modelIds.1

structure PairedDevice where
  slot : UInt8
  kind : DeviceKind
  online : Bool
  modelInfo : Option DeviceModelInfo
  capabilities : Option Capabilities

structure DeviceInventory where
  receiver : ReceiverInfo
  paired : List PairedDevice

structure RawDeviceAddress where
  vendorId : UInt16
  productId : UInt16
  usagePage : UInt16
  usageId : UInt16
  identity : String

structure StandaloneDevice where
  address : RawDeviceAddress
  displayName : String
  serialNumber : Option String
  unitId : Flow.Bytes 4
  kind : DeviceKind
  online : Bool
  capabilities : Option Capabilities
  lightCapabilities : Option Lights.LightCapabilities

def StandaloneDevice.route (device : StandaloneDevice) : DeviceRoute :=
  .rawHid device.address.vendorId device.address.productId device.address.usagePage device.address.usageId
    device.address.identity

/-- A snapshot of everything that was enumerated. -/
structure Snapshot where
  inventories : List DeviceInventory
  standalone : List StandaloneDevice

/-! ## Routes -/

def directDeviceIndex : UInt8 := 0xff

/-- The receivers that speak the protocol of the Unifying ones. -/
def unifyingReceivers : List UInt16 :=
  [0xc52b, 0xc532, 0xc51a, 0xc534, 0xc537, 0xc53e, 0xc539, 0xc53a, 0xc53f, 0xc541, 0xc547, 0xc54d]

def speaksUnifyingProtocol (productId : UInt16) : Bool := unifyingReceivers.contains productId

def forSlot (receiver : ReceiverInfo) (slot : UInt8) : Option DeviceRoute :=
  match receiver.uniqueId with
  | some uid => some (if speaksUnifyingProtocol receiver.productId then .unifying uid slot else .bolt uid slot)
  | none => if slot = directDeviceIndex then some (.direct receiver.vendorId receiver.productId) else none

/-! ## The order of the carousel -/

def orderOfIdentity : DeviceIdentity → DeviceIdentity → Ordering
  | .serial a, .serial b => compare a b
  | .serial _, .unit _ => .lt
  | .unit _, .serial _ => .gt
  | .unit a, .unit b => compare a.val b.val

def orderOfStableId : DeviceStableId → DeviceStableId → Ordering
  | .bolt uid slot, .bolt uid' slot' => (compare uid uid').then (compare slot slot')
  | .bolt .., _ => .lt
  | _, .bolt .. => .gt
  | .direct vendorId productId identity, .direct vendorId' productId' identity' =>
    ((compare vendorId vendorId').then (compare productId productId')).then (orderOfIdentity identity identity')
  | .direct .., _ => .lt
  | _, .direct .. => .gt
  | .rawHid vendorId productId usagePage usageId identity, .rawHid vendorId' productId' usagePage' usageId' identity' =>
    ((compare vendorId vendorId').then (compare productId productId')).then
      (((compare usagePage usagePage').then (compare usageId usageId')).then (compare identity identity'))
  | .rawHid .., _ => .lt
  | _, .rawHid .. => .gt
  | .unknown slot identity, .unknown slot' identity' => (compare slot slot').then (orderOfIdentity identity identity')

def orderOfDevice (a b : AgentDevice) : Ordering :=
  (orderOfStableId a.stableId b.stableId).then (compare a.modelKey b.modelKey)

/-! ## The list -/

section
variable {V : Type} [DecidableEq V] (file : OpenLogi.Config.Config V)

/-- The key of a device; an identity is offered only while the device is online to report one. -/
def listedKey (route : Option DeviceRoute) (slot : UInt8) (serial : Option String) (unitId : Flow.Bytes 4)
    (online : Bool) : Option PhysicalDeviceKey :=
  file.resolveDeviceKey (.fromParts route slot serial unitId) (if online then some (.fromParts serial unitId) else none)

def pairedDevice (receiver : ReceiverInfo) (paired : PairedDevice) : Option AgentDevice :=
  paired.modelInfo.bind fun model =>
    let route := forSlot receiver paired.slot
    (listedKey file route paired.slot model.serialNumber model.unitId paired.online).map fun key =>
      { configKey := key.asStr
        modelKey := model.modelKey
        route := route
        slot := paired.slot
        serial := model.serialNumber
        unitId := model.unitId
        capabilities := paired.capabilities
        kind := paired.kind
        lightCapabilities := none
        online := paired.online }

def standaloneDevice (device : StandaloneDevice) : Option AgentDevice :=
  (listedKey file (some device.route) directDeviceIndex device.serialNumber device.unitId device.online).map fun key =>
    { configKey := key.asStr
      modelKey := device.displayName
      route := some device.route
      slot := directDeviceIndex
      serial := device.serialNumber
      unitId := device.unitId
      capabilities := device.capabilities
      kind := device.kind
      lightCapabilities := device.lightCapabilities
      online := device.online }

def buildDevices (snapshot : Snapshot) : List AgentDevice :=
  let paired := snapshot.inventories.flatMap fun inventory =>
    inventory.paired.filterMap (pairedDevice file inventory.receiver)
  (paired ++ snapshot.standalone.filterMap (standaloneDevice file)).mergeSort fun a b => (orderOfDevice a b).isLE

end

/-! ## Lifecycles -/

/-- The two entries still describe one device: a field that is missing says nothing. -/
def sameDeviceLifecycle (previous next : AgentDevice) : Bool :=
  let differ := previous.route ≠ next.route ||
    (previous.unitId ≠ zeroUnit && next.unitId ≠ zeroUnit && previous.unitId ≠ next.unitId) ||
    match previous.identity, next.identity with
    | .serial before, .serial after => before ≠ after
    | _, _ => false
  !differ && (previous.stableId = next.stableId ||
    (previous.unitId ≠ zeroUnit && previous.unitId = next.unitId &&
      (previous.route.isSome || previous.slot = next.slot)))

/-- The device came online, or is seen for the first time. -/
def needsReapply (prev : List AgentDevice) (reapplyAll : Bool) (dev : AgentDevice) : Bool :=
  dev.online && dev.route.isSome &&
    (reapplyAll || (prev.find? fun p => sameDeviceLifecycle p dev).all fun p => !p.online)

def reapplyTargets (prev next : List AgentDevice) (reapplyAll : Bool) : List AgentDevice :=
  next.filter (needsReapply prev reapplyAll)

end Agent
end OpenLogi
