import OpenLogi.Flow.Pairing
/-!
# Devices — the local devices Flow can move

`LocalDevices`: the configured devices the inventory lists, and the keys of those it does not.  A peer names a device by
its identifiers; `find` and `findUnlisted` say which local device they mean, and a malformed identity means none.
-/
namespace OpenLogi
namespace Core

structure PhysicalDeviceKey where
  asStr : String
  deriving DecidableEq

/-- A device's own identity: its serial, case-folded, or else its unit id. -/
inductive DeviceIdentity where
  | serial (serial : String)
  | unit (unit : Flow.Bytes 4)
  deriving DecidableEq

def zeroUnit : Flow.Bytes 4 := ⟨[0, 0, 0, 0], rfl⟩

/-- `{:02x}`. -/
def hex2 (byte : UInt8) : String :=
  let ds := Nat.toDigits 16 byte.toNat
  String.ofList (List.replicate (2 - ds.length) '0' ++ ds)

def hexUnit (unit : Flow.Bytes 4) : String := String.join (unit.val.map hex2)

namespace DeviceIdentity

def fromParts (serial : Option String) (unitId : Flow.Bytes 4) : DeviceIdentity :=
  match serial.filter fun serial => serial ≠ "" with
  | some s => .serial (s.map Char.toLower)
  | none => .unit unitId

def isPhysical : DeviceIdentity → Bool
  | .serial s => s ≠ ""
  | .unit u => u ≠ zeroUnit

def key : DeviceIdentity → String
  | .serial s => s!"serial:{s}"
  | .unit u => s!"unit:{hexUnit u}"

def configKey (identity : DeviceIdentity) : Option String := if identity.isPhysical then some identity.key else none

end DeviceIdentity

/-- Whether this key names, by its own identity, a device that reports this serial or unit id. -/
def PhysicalDeviceKey.namesIdentity (key : PhysicalDeviceKey) (serial : Option String) (unitId : Flow.Bytes 4) : Bool :=
  let serial := serial.bind fun serial => (DeviceIdentity.fromParts (some serial) zeroUnit).configKey
  let unit := (DeviceIdentity.fromParts none unitId).configKey
  serial == some key.asStr || unit == some key.asStr

end Core

namespace Flow

open OpenLogi.Core (PhysicalDeviceKey)

/-! ## Identifiers on the wire -/

inductive IdentifierKind where
  | unspecified
  | serial
  | unitId
  | bluetoothAddress
  deriving DecidableEq

structure DeviceIdentifier where
  kind : EnumValue IdentifierKind
  value : List UInt8
  deriving DecidableEq

/-- The identity a peer correlates a device by; its name is only shown. -/
structure DeviceIdentity where
  ids : List DeviceIdentifier
  name : String
  deriving DecidableEq

inductive CanonicalDeviceIdentifier where
  | serial (serial : String)
  | unitId (unit : UInt32)
  | bluetoothAddress (address : Bytes 6)
  deriving DecidableEq

inductive DeviceIdentifierError where
  | unspecifiedKind
  | unknownKind (value : Int)
  | invalidSerialUtf8
  | emptySerial
  | invalidLength (kind : IdentifierKind) (expected actual : Nat)
  deriving DecidableEq

/-- `u32::from_be_bytes`. -/
def fromBeBytes (bytes : Bytes 4) : UInt32 :=
  UInt32.ofNat (bytes.val.foldl (fun n byte => n * 256 + byte.toNat) 0)

/-- `u32::to_be_bytes`. -/
def toBeBytes (n : UInt32) : Bytes 4 := ⟨[(n >>> 24).toUInt8, (n >>> 16).toUInt8, (n >>> 8).toUInt8, n.toUInt8], rfl⟩

def exactBytes (n : Nat) (kind : IdentifierKind) (value : List UInt8) : Except DeviceIdentifierError (Bytes n) :=
  match fixed n value with
  | .ok bytes => .ok bytes
  | .error e => .error (.invalidLength kind e.expected e.actual)

def CanonicalDeviceIdentifier.tryFrom (identifier : DeviceIdentifier) :
    Except DeviceIdentifierError CanonicalDeviceIdentifier :=
  match identifier.kind with
  | .known .serial =>
    match String.fromUTF8? ⟨identifier.value.toArray⟩ with
    | none => .error .invalidSerialUtf8
    | some s => if s = "" then .error .emptySerial else .ok (.serial s)
  | .known .unitId => (exactBytes 4 .unitId identifier.value).map fun bytes => .unitId (fromBeBytes bytes)
  | .known .bluetoothAddress => (exactBytes 6 .bluetoothAddress identifier.value).map .bluetoothAddress
  | .known .unspecified => .error .unspecifiedKind
  | .unknown value => .error (.unknownKind value)

def validatedIdentifiers (identity : DeviceIdentity) : Except DeviceIdentifierError (List CanonicalDeviceIdentifier) :=
  identity.ids.mapM CanonicalDeviceIdentifier.tryFrom

/-- Whether two identities denote one physical device; a malformed identifier in either is an error. -/
def sameDevice (first second : DeviceIdentity) : Except DeviceIdentifierError Bool := do
  let first ← validatedIdentifiers first
  let second ← validatedIdentifiers second
  return first.any fun identifier => second.contains identifier

/-! ## The devices of this host -/

inductive DeviceKind where
  | mouse
  | keyboard
  | numpad
  | presenter
  | remote
  | trackball
  | touchpad
  | tablet
  | gamepad
  | joystick
  | headset
  | camera
  | unknown
  | light
  deriving DecidableEq

def DeviceKind.isPointing : DeviceKind → Bool
  | .mouse | .trackball | .touchpad => true
  | _ => false

/-- A configured device joined with its inventory record. -/
structure LocalDevice where
  key : PhysicalDeviceKey
  identity : DeviceIdentity
  kind : DeviceKind
  online : Bool
  deriving DecidableEq

def LocalDevice.isOnline (device : LocalDevice) : Bool := device.online

def LocalDevice.isPointing (device : LocalDevice) : Bool := device.kind.isPointing

/-- The configured devices, split by whether the inventory lists them. -/
structure LocalDevices where
  listed : List LocalDevice
  unlisted : List PhysicalDeviceKey
  deriving DecidableEq

namespace LocalDevices

/-- The listed device a peer's identity denotes. -/
def find (devices : LocalDevices) (identity : DeviceIdentity) : Option LocalDevice :=
  devices.listed.find? fun device =>
    match sameDevice identity device.identity with
    | .ok same => same
    | .error _ => false

/-- What the configured keys are matched against, or `none` for a malformed identity. -/
def unlistedIds : List DeviceIdentifier → Option (List (Option String × Bytes 4))
  | [] => some []
  | id :: ids =>
    match CanonicalDeviceIdentifier.tryFrom id with
    | .error _ => none
    | .ok (.serial serial) => (unlistedIds ids).map ((some serial, Core.zeroUnit) :: ·)
    | .ok (.unitId unit) => (unlistedIds ids).map ((none, toBeBytes unit) :: ·)
    | .ok (.bluetoothAddress _) => unlistedIds ids

/-- The key of the configured, unlisted device a peer's identity denotes. -/
def findUnlisted (devices : LocalDevices) (identity : DeviceIdentity) : Option PhysicalDeviceKey :=
  (unlistedIds identity.ids).bind fun ids =>
    devices.unlisted.find? fun unlisted => ids.any fun (serial, unit) => unlisted.namesIdentity serial unit

/-- The listed device of this key, if it is online. -/
def arrived (devices : LocalDevices) (key : PhysicalDeviceKey) : Option LocalDevice :=
  devices.listed.find? fun device => device.key = key && device.isOnline

/-- Whether the device of this key is listed and online. -/
def connected (devices : LocalDevices) (key : PhysicalDeviceKey) : Bool := (devices.arrived key).isSome

end LocalDevices

end Flow
end OpenLogi
