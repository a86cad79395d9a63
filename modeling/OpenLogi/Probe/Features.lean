import OpenLogi.Agent.Orchestrator
/-!
# Features — the reads of one probe of a HID++ 2.0 device

A probe asks the device for its feature table, and then each feature for what the table cannot say.  A link is what the
device answers to every request, and which asks go unanswered: the reply is lost, or the request never arrived.
-/
namespace OpenLogi
namespace Probe

open Agent (Capabilities)

inductive ErrorType where
  | busy
  | other (code : UInt8)
  deriving DecidableEq

inductive Hidpp20Error where
  | channel
  | feature (error : ErrorType)
  | unsupportedResponse
  deriving DecidableEq

/-- A call of a feature's function, by the feature's index. -/
structure Request where
  index : UInt8
  function : UInt8
  args : List UInt8
  deriving DecidableEq

/-- A short or long reply; `extend_payload` fills the rest with zeros. -/
structure Message where
  isLong : Bool
  payload : List UInt8

namespace Message

def byte (m : Message) (i : Nat) : UInt8 := m.payload.getD i 0

def bit (m : Message) (i : Nat) (mask : UInt8) : Bool := m.byte i &&& mask != 0

/-- `u16::from_be_bytes`. -/
def word (m : Message) (i : Nat) : Nat := (m.byte i).toNat * 256 + (m.byte (i + 1)).toNat

end Message

inductive Answer where
  | reply (message : Message)
  | error (error : ErrorType)
  /-- An error code that is not known. -/
  | unknownError

structure Link where
  answer : Request → Answer
  /-- Which asks of a request go unanswered, counted from zero. -/
  lost : Request → Nat → Bool

structure FeatureInformation where
  id : Nat
  typ : UInt8
  version : UInt8

/-- The feature table, and which entry is the `FeatureSet` itself. -/
structure FeatureTable where
  featureSet : UInt8
  features : List FeatureInformation

namespace Link

def ask (l : Link) (attempt : Nat) (r : Request) : Except Hidpp20Error Message :=
  if l.lost r attempt then .error .channel
  else
    match l.answer r with
    | .reply message => .ok message
    | .error error => .error (.feature error)
    | .unknownError => .error .unsupportedResponse

def call (l : Link) (r : Request) : Except Hidpp20Error Message := l.ask 0 r

/-! ## The feature table -/

def featureReadAttempts : Nat := 4

/-- A lost entry is asked for again. -/
def readFeatureEntry (l : Link) (r : Request) : List Nat → Except Hidpp20Error Message
  | [] => .error .channel
  | attempt :: attempts =>
    match l.ask attempt r with
    | .ok message => .ok message
    | .error .channel => l.readFeatureEntry r attempts
    | .error (.feature error) => .error (.feature error)
    | .error .unsupportedResponse => .error .unsupportedResponse

/-- `root().get_feature(FeatureSetFeature::ID)`. -/
def rootRequest : Request := ⟨0, 0, [0, 1, 0]⟩

def countRequest (featureSet : UInt8) : Request := ⟨featureSet, 0, [0, 0, 0]⟩

def entryRequest (featureSet : UInt8) (position : Nat) : Request := ⟨featureSet, 1, [UInt8.ofNat (position + 1), 0, 0]⟩

def readFeature (l : Link) (featureSet : UInt8) (position : Nat) : Except Hidpp20Error FeatureInformation := do
  let message ← l.readFeatureEntry (entryRequest featureSet position) (List.range featureReadAttempts)
  return { id := message.word 0, typ := message.byte 2, version := message.byte 3 }

def readFeatures (l : Link) (featureSet : UInt8) : List Nat → Except Hidpp20Error (List FeatureInformation)
  | [] => .ok []
  | position :: positions => do
    let feature ← l.readFeature featureSet position
    let features ← l.readFeatures featureSet positions
    return feature :: features

/-- `None` where the device has no `FeatureSet`. -/
def enumerateFeatures (l : Link) : Except Hidpp20Error (Option FeatureTable) := do
  let root ← l.call rootRequest
  if root.byte 0 = 0 then return none
  let count ← l.call (countRequest (root.byte 0))
  let features ← l.readFeatures (root.byte 0) (List.range (count.byte 0).toNat)
  return some { featureSet := root.byte 0, features := features }

end Link

namespace FeatureTable

def ids (t : FeatureTable) : List Nat := t.features.map (·.id)

/-- `Device::get_feature`: the last entry that creates the feature. -/
def getFeature (t : FeatureTable) (id : Nat) (startingVersion : UInt8) : Option UInt8 :=
  ((t.features.zipIdx.filter fun entry =>
    entry.1.id = id && decide (startingVersion ≤ entry.1.version) &&
      decide (UInt8.ofNat (entry.2 + 1) ≠ t.featureSet)).getLast?).map fun entry => UInt8.ofNat (entry.2 + 1)

/-- What the table alone says. -/
def deriveCapabilities (t : FeatureTable) : Capabilities :=
  let has := fun family : List Nat => t.ids.any (family.contains ·)
  let pointer := has [0x2201, 0x2202]
  { buttons := has [0x1b00, 0x1b01, 0x1b02, 0x1b03, 0x1b04]
    pointer := pointer
    lighting := has [0x8070, 0x8071, 0x8081, 0x8080]
    scrollInversion := false
    hiresWheel := has [0x2121]
    thumbwheel := has [0x2150]
    hapticFeedback := has [0x19b0]
    hapticPanel := false
    dpiGestures := false
    fnLock := has [0x40a0, 0x40a2, 0x40a3]
    osLayout := has [0x4531]
    reportRate := has [0x8060, 0x8061]
    backlight := has [0x1982]
    easySwitch := has [0x1815]
    virtualThumbwheel := false
    pointerScaling := !pointer && has [0x2205]
    forceSensing := has [0x19c0]
    disableKeys := t.features.any fun feature =>
      feature.id = 0x4521 && !(feature.typ &&& 0x40 != 0) && !(feature.typ &&& 0x20 != 0)
    onboardProfiles := has [0x8100]
    buttonSpy := has [0x8110]
    sidetone := has [0x8300]
    gKeys := has [0x8010]
    mKeys := has [0x8020]
    macroRecord := has [0x8030]
    changeHost := has [0x1814] }

def probesHapticControls (t : FeatureTable) : Bool := t.ids.contains 0x19b0 || t.ids.contains 0x19c0

end FeatureTable

/-! ## The battery source -/

inductive BatteryProbe where
  | unified (index : UInt8) (stateOfCharge : Bool)
  | legacy (index : UInt8) (mileage : Bool)
  | voltage (index : UInt8)
  | adc (index : UInt8)
  | statusRegister
  | chargeRegister
  deriving DecidableEq

/-- The index of the first entry with the id. -/
def FeatureTable.firstIndex (t : FeatureTable) (id : Nat) : Option UInt8 :=
  (t.ids.findIdx? (· = id)).map fun position => UInt8.ofNat (position + 1)

/-- The unified source outranks the legacy one, and that the voltages. -/
def FeatureTable.batteryFeatureIndex (t : FeatureTable) : Option BatteryProbe :=
  match t.firstIndex 0x1004 with
  | some index => some (.unified index true)
  | none =>
    (((t.firstIndex 0x1000).map fun index => .legacy index true).or
      ((t.firstIndex 0x1001).map .voltage)).or ((t.firstIndex 0x1f20).map .adc)

namespace Link

/-- A feature's first function, which takes no argument. -/
def zeroRequest (index : UInt8) : Request := ⟨index, 0, [0, 0, 0]⟩

/-- A feature's second function, of its first row. -/
def firstRequest (index : UInt8) : Request := ⟨index, 1, [0, 0, 0]⟩

/-- `resolve_state_of_charge` and `resolve_legacy_mileage`: the probe with the battery's capability, and whether that
could not be read. -/
def resolveBatteryCapability (l : Link) (probe : Option BatteryProbe) : Option BatteryProbe × Bool :=
  match probe with
  | some (.unified index _) =>
    match l.call (zeroRequest index) with
    | .ok message => (some (.unified index (message.bit 1 2)), false)
    | .error _ => (probe, true)
  | some (.legacy index _) =>
    match l.call (firstRequest index) with
    | .ok message => (some (.legacy index (decide (10 ≤ message.byte 0) && message.bit 1 2)), false)
    | .error _ => (probe, true)
  | _ => (probe, false)

/-! ## The capabilities the table cannot answer -/

def hasInvert (message : Message) : Bool := message.bit 1 8

/-- An unanswered read is a no. -/
def probeScrollInversion (l : Link) (t : FeatureTable) (caps : Capabilities) : Capabilities :=
  match t.getFeature 0x2121 0 with
  | some index =>
    { caps with
      scrollInversion :=
        match l.call (zeroRequest index) with
        | .ok message => hasInvert message
        | .error _ => false }
  | none => caps

inductive DescriptorScan where
  | thumbwheel
  | fin
  | next
  deriving DecidableEq

/-- One page of up to eight fields of a flag byte and a gesture id. -/
def scanDescriptorPage (message : Message) : List Nat → DescriptorScan
  | [] => .next
  | field :: fields =>
    if message.byte (2 * field) = 1 then .fin
    else if message.bit (2 * field) 128 && message.byte (2 * field + 1) = 46 then .thumbwheel
    else scanDescriptorPage message fields

def scanPage (message : Message) : DescriptorScan := scanDescriptorPage message (List.range 8)

def pageRequest (index : UInt8) (page : Nat) : Request :=
  ⟨index, 0, [UInt8.ofNat (8 * page / 256), UInt8.ofNat (8 * page % 256), 0]⟩

def maxDescriptorPages : Nat := 128

/-- `has_thumbwheel`, over the pages that are left. -/
def hasThumbwheel (l : Link) (index : UInt8) : List Nat → Except Hidpp20Error Bool
  | [] => .error .unsupportedResponse
  | page :: pages =>
    match l.call (pageRequest index page) with
    | .error error => .error error
    | .ok message =>
      match scanPage message with
      | .thumbwheel => .ok true
      | .fin => .ok false
      | .next => l.hasThumbwheel index pages

/-- Again a failed read is a no. -/
def probeThumbwheel (l : Link) (t : FeatureTable) (caps : Capabilities) : Capabilities :=
  if caps.thumbwheel then caps
  else
    match t.getFeature 0x6501 0 with
    | some index =>
      { caps with
        thumbwheel :=
          match l.hasThumbwheel index (List.range maxDescriptorPages) with
          | .ok found => found
          | .error _ => false }
    | none => caps

def setHostPlatform (message : Message) : Bool := message.bit 0 2

def probeOsLayout (l : Link) (t : FeatureTable) (caps : Capabilities) : Except Unit Capabilities :=
  if caps.osLayout then
    match t.getFeature 0x4531 1 with
    | some index =>
      match l.call (zeroRequest index) with
      | .ok message => .ok { caps with osLayout := setHostPlatform message }
      | .error _ => .error ()
    | none => .ok caps
  else .ok caps

/-- What a refused or lost read says: an error that the device answered is a no, unless it was busy. -/
def forceSensingErrorAnswer : Hidpp20Error → Except Unit Bool
  | .feature .busy => .error ()
  | .feature (.other _) => .ok false
  | .unsupportedResponse => .ok false
  | .channel => .error ()

/-- `panel_button`: `None` where the reply is short, or its range or default is unusable. -/
def forceButtonIsChangeable (message : Message) : Option Bool :=
  if message.isLong && decide (message.word 6 ≤ message.word 2) && decide (message.word 2 ≤ message.word 4) then
    some (message.bit 1 1)
  else none

def probeForceSensing (l : Link) (index : UInt8) : Except Unit Bool :=
  match l.call (zeroRequest index) with
  | .error error => forceSensingErrorAnswer error
  | .ok count =>
    if count.byte 0 = 0 then .ok false
    else
      match l.call (firstRequest index) with
      | .error error => forceSensingErrorAnswer error
      | .ok info =>
        match forceButtonIsChangeable info with
        | some changeable => .ok changeable
        | none => forceSensingErrorAnswer .unsupportedResponse

/-- A failed read keeps the table's presumption, and is remembered. -/
def probeForce (l : Link) (t : FeatureTable) (caps : Capabilities) : Capabilities × Except Unit Unit :=
  if caps.forceSensing then
    match t.getFeature 0x19c0 0 with
    | some index =>
      match l.probeForceSensing index with
      | .ok changeable => ({ caps with forceSensing := changeable }, .ok ())
      | .error _ => (caps, .error ())
    | none => (caps, .ok ())
  else (caps, .ok ())

end Link

/-! ## The control walk -/

/-- What the rows of the control table showed so far. -/
structure Controls where
  hapticPanel : Bool := false
  dpiGestures : Bool := false
  virtualThumbwheel : Bool := false

/-- One row of the control table: its id, and three of its flags. -/
structure CidInfo where
  cid : Nat
  divertable : Bool
  rawXy : Bool
  rawWheel : Bool

def Message.cidInfo (m : Message) : CidInfo :=
  { cid := m.word 0, divertable := m.bit 4 32, rawXy := m.bit 8 1, rawWheel := m.bit 8 8 }

def hapticPanelCid : Nat := 0x1a0
def dpiModeShiftCids : List Nat := [0xc4, 0xed, 0xfd]
def backCids : List Nat := [0x53, 0xbd, 0xce, 0xdb]
def forwardCids : List Nat := [0x56, 0xcf]

def Controls.row (c : Controls) (probeHapticControls : Bool) (info : CidInfo) : Controls :=
  { hapticPanel := c.hapticPanel || (probeHapticControls && info.cid == hapticPanelCid && info.divertable)
    dpiGestures := c.dpiGestures || (dpiModeShiftCids.contains info.cid && info.divertable && info.rawXy)
    virtualThumbwheel := c.virtualThumbwheel ||
      ((backCids.contains info.cid || forwardCids.contains info.cid) && info.divertable && info.rawWheel) }

namespace Link

/-- `get_cid_info` sends a long report. -/
def cidRequest (index : UInt8) (row : Nat) : Request := ⟨index, 1, UInt8.ofNat row :: List.replicate 15 0⟩

def walkRows (l : Link) (index : UInt8) (probeHapticControls : Bool) (c : Controls) :
    List Nat → Except Hidpp20Error Controls
  | [] => .ok c
  | row :: rows => do
    let message ← l.call (cidRequest index row)
    l.walkRows index probeHapticControls (c.row probeHapticControls message.cidInfo) rows

def walkControls (l : Link) (index : UInt8) (probeHapticControls : Bool) : Except Hidpp20Error Controls := do
  let count ← l.call (zeroRequest index)
  l.walkRows index probeHapticControls {} (List.range (count.byte 0).toNat)

def probeControls (l : Link) (t : FeatureTable) (caps : Capabilities) : Except Unit Capabilities :=
  match t.getFeature 0x1b04 0 with
  | some index =>
    match l.walkControls index t.probesHapticControls with
    | .ok c =>
      .ok { caps with
        hapticPanel := c.hapticPanel
        dpiGestures := c.dpiGestures
        virtualThumbwheel := c.virtualThumbwheel }
    | .error _ => .error ()
  | none => .ok caps

/-- The reads of `probe_extra_capabilities` whose failure it reports; the set keeps what was read before. -/
def probeReported (l : Link) (t : FeatureTable) (caps : Capabilities) : Capabilities × Except Unit Unit :=
  match l.probeOsLayout t caps with
  | .error _ => (caps, .error ())
  | .ok caps =>
    match l.probeControls t (l.probeForce t caps).1 with
    | .error _ => ((l.probeForce t caps).1, .error ())
    | .ok walked => (walked, (l.probeForce t caps).2)

def probeExtraCapabilities (l : Link) (t : FeatureTable) (caps : Capabilities) : Capabilities × Except Unit Unit :=
  l.probeReported t (l.probeThumbwheel t (l.probeScrollInversion t caps))

end Link

/-! ## The probe -/

/-- The identity of a unit; `transports` is the flag byte of the four transports. -/
structure DeviceModelInfo where
  entityCount : UInt8
  serialNumber : Option String
  unitId : List UInt8
  transports : UInt8
  modelIds : List Nat
  extendedModelId : UInt8
  deriving DecidableEq

/-- `char::is_whitespace`. -/
def isWhitespace (c : Char) : Bool :=
  decide (9 ≤ c.toNat ∧ c.toNat ≤ 13) || decide (0x2000 ≤ c.toNat ∧ c.toNat ≤ 0x200a) ||
    [0x20, 0x85, 0xa0, 0x1680, 0x2028, 0x2029, 0x202f, 0x205f, 0x3000].contains c.toNat

def trimMatches (p : Char → Bool) (cs : List Char) : List Char := (((cs.dropWhile p).reverse).dropWhile p).reverse

def normalizeSerialNumber (serial : String) : Option String :=
  let trimmed := trimMatches isWhitespace (trimMatches (· = Char.ofNat 0) serial.toList)
  if trimmed.isEmpty then none else some (String.ofList trimmed)

/-- `String::from_utf8`, of the first twelve bytes. -/
def serialNumber (message : Message) : Option String :=
  String.fromUTF8? ⟨((List.range 12).map message.byte).toArray⟩

namespace Link

/-- The serial number of a device that reports one, and whether its read failed. -/
def readSerialNumber (l : Link) (index : UInt8) (info : Message) : Option String × Bool :=
  if info.bit 14 1 then
    match l.call ⟨index, 2, [0, 0, 0]⟩ with
    | .error _ => (none, true)
    | .ok message =>
      match serialNumber message with
      | some serial => (normalizeSerialNumber serial, false)
      | none => (none, true)
  else (none, false)

/-- `DeviceInformation`, and whether a read of it failed. -/
def readModelInfo (l : Link) (t : FeatureTable) : Option DeviceModelInfo × Bool :=
  match t.getFeature 0x0003 0 with
  | none => (none, false)
  | some index =>
    match l.call (zeroRequest index) with
    | .error _ => (none, true)
    | .ok info =>
      let serial := l.readSerialNumber index info
      (some
        { entityCount := info.byte 0
          serialNumber := serial.1
          unitId := [1, 2, 3, 4].map info.byte
          transports := info.byte 6
          modelIds := [7, 9, 11].map info.word
          extendedModelId := info.byte 13 }, serial.2)

end Link

/-- What a probe learned about the protocol a device speaks. -/
inductive ProbedProtocol where
  | unanswered
  | hidpp20 (capabilities : Capabilities) (incomplete : Bool)
  | hidpp10
  deriving DecidableEq

/-- Whether the data answers for the device now, or stands in for one that did not answer its refresh. -/
inductive Refresh where
  | answered
  | failed
  deriving DecidableEq

structure ProbedFeatures where
  modelInfo : Option DeviceModelInfo := none
  protocol : ProbedProtocol := .unanswered
  identityIncomplete : Bool := false
  refresh : Refresh := .answered
  deriving DecidableEq

namespace ProbedFeatures

def capabilities (p : ProbedFeatures) : Option Capabilities :=
  match p.protocol with
  | .hidpp20 capabilities _ => some capabilities
  | .unanswered => none
  | .hidpp10 => none

def capabilitiesIncomplete (p : ProbedFeatures) : Bool :=
  match p.protocol with
  | .hidpp20 _ incomplete => incomplete
  | .unanswered => false
  | .hidpp10 => false

def completed (p : ProbedFeatures) : Bool := decide (p.protocol ≠ .unanswered)

end ProbedFeatures

namespace Link

/-- `probe_hidpp20`. -/
def probeHidpp20 (l : Link) : ProbedFeatures × Option BatteryProbe :=
  match l.enumerateFeatures with
  | .error _ => ({}, none)
  | .ok none => ({}, none)
  | .ok (some t) =>
    let extra := l.probeExtraCapabilities t t.deriveCapabilities
    let battery := l.resolveBatteryCapability t.batteryFeatureIndex
    let identity := l.readModelInfo t
    ({ modelInfo := identity.1
       protocol := .hidpp20 extra.1 (decide (extra.2 ≠ .ok ()) || battery.2)
       identityIncomplete := identity.2 }, battery.1)

/-- The ping of `determine_version`. -/
def pingRequest : Request := ⟨0, 1, [0, 0, 0]⟩

/-- A device that speaks HID++ 2.0 is one that answers its ping. -/
def answersPing (l : Link) : Bool := (l.call pingRequest).isOk

def probeFeatures (l : Link) : ProbedFeatures × Option BatteryProbe :=
  if l.answersPing then l.probeHidpp20 else ({}, none)

end Link

/-- What a due refresh learned. -/
inductive Refreshed where
  | unreachable
  | answered (walk : Option (ProbedFeatures × Option BatteryProbe))

/-- `inTime`: the walk after the ping ended within its budget. -/
def Link.refreshFeatures (l : Link) (inTime : Bool) : Refreshed :=
  if l.answersPing then .answered (if inTime then some l.probeHidpp20 else none) else .unreachable

end Probe
end OpenLogi
