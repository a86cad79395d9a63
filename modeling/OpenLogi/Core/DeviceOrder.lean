import OpenLogi.Flow.Devices
import OpenLogi.Hid.Route
import OpenLogi.Lib.Digits
/-!
# DeviceOrder — the keys a device goes by

A device is named by its own identity or by the path that reaches it.  `PhysicalDeviceKey.parse` accepts the keys that
`DeviceStableId.physicalKey` writes and the bare identities.  The string functions are those of the standard library of
the source, on the characters of a string.
-/
namespace OpenLogi
namespace Core

open Hid (DeviceRoute hex4)

/-! ## Strings -/

def stripPrefix (pre s : String) : Option String :=
  if pre.toList.isPrefixOf s.toList then some (String.ofList (s.toList.drop pre.toList.length)) else none

/-- The characters before and after the first `c`. -/
def splitOnce (c : Char) : List Char → Option (List Char × List Char)
  | [] => none
  | x :: rest => if x = c then some ([], rest) else (splitOnce c rest).map fun (before, after) => (x :: before, after)

/-- The characters before and after the last `pattern`. -/
def rsplitOnce (pattern : List Char) : List Char → Option (List Char × List Char)
  | [] => none
  | x :: rest =>
    match rsplitOnce pattern rest with
    | some (before, after) => some (x :: before, after)
    | none => if pattern.isPrefixOf (x :: rest) then some ([], (x :: rest).drop pattern.length) else none

/-- `str::parse::<u8>`: an optional plus sign, then digits up to 255. -/
def parseU8 (digits : List Char) : Option Nat :=
  let digits := if digits.head? = some '+' then digits.tail else digits
  if digits.isEmpty || !digits.all Char.isDigit then none
  else
    let n := digits.foldl (fun n c => n * 10 + (c.toNat - '0'.toNat)) 0
    if n ≤ 255 then some n else none

def isHexDigit (c : Char) : Bool := c.isDigit || ('a' ≤ c && c ≤ 'f') || ('A' ≤ c && c ≤ 'F')

def isHexWord (value : List Char) : Bool := value.length = 4 && value.all isHexDigit

/-! ## Parts of a key -/

def receiverKeyIsValid (value : String) : Bool :=
  match (stripPrefix "receiver:" value).bind fun rest => rsplitOnce ":slot:".toList rest.toList with
  | some (receiverUid, slot) => !receiverUid.isEmpty && (parseU8 slot).isSome
  | none => false

def directIdentityFragment (value : String) : Option String := do
  let rest ← stripPrefix "direct:" value
  let (vendorId, rest) ← splitOnce ':' rest.toList
  let (productId, identity) ← splitOnce ':' rest
  if isHexWord vendorId && isHexWord productId then some (String.ofList identity) else none

def rawIdentityFragment (value : String) : Option String := do
  let rest ← stripPrefix "raw:" value
  let (vendorId, rest) ← splitOnce ':' rest.toList
  let (productId, rest) ← splitOnce ':' rest
  let (usagePage, rest) ← splitOnce ':' rest
  let (usageId, identity) ← splitOnce ':' rest
  if isHexWord vendorId && isHexWord productId && isHexWord usagePage && isHexWord usageId && !identity.isEmpty then
    some (String.ofList identity)
  else none

def unknownIdentityFragment (value : String) : Option String := do
  let rest ← stripPrefix "unknown:slot:" value
  let (slot, identity) ← splitOnce ':' rest.toList
  (parseU8 slot).map fun _ => String.ofList identity

def identityFragmentIsPhysical (value : String) : Bool :=
  (stripPrefix "serial:" value).any (fun serial => serial ≠ "") ||
    (stripPrefix "unit:" value).any fun unit =>
      unit.toList.length = 8 && unit.toList.all isHexDigit && unit ≠ "00000000"

def rawIdentityIsPhysical (value : String) : Bool :=
  (stripPrefix "serial:" value).any (fun serial => serial ≠ "") ||
    (stripPrefix "stable:" value).any fun identity => identity ≠ ""

def PhysicalDeviceKey.parse (value : String) : Option PhysicalDeviceKey :=
  if receiverKeyIsValid value || (directIdentityFragment value).any identityFragmentIsPhysical ||
      (rawIdentityFragment value).any rawIdentityIsPhysical ||
      (unknownIdentityFragment value).any identityFragmentIsPhysical || identityFragmentIsPhysical value then
    some ⟨value⟩
  else none

/-! ## Stable ids -/

/-- A route-derived identity; a receiver's id and a raw identity are case-folded. -/
inductive DeviceStableId where
  | bolt (receiverUid : String) (slot : UInt8)
  | direct (vendorId productId : UInt16) (identity : DeviceIdentity)
  | rawHid (vendorId productId usagePage usageId : UInt16) (identity : String)
  | unknown (slot : UInt8) (identity : DeviceIdentity)
  deriving DecidableEq

namespace DeviceStableId

/-- The stable id of a device; its slot counts only while it has no route. -/
def fromParts (route : Option DeviceRoute) (slot : UInt8) (serial : Option String) (unitId : Flow.Bytes 4) :
    DeviceStableId :=
  match route with
  | some (.bolt receiverUid slot) | some (.unifying receiverUid slot) => .bolt (receiverUid.map Char.toLower) slot
  | some (.direct vendorId productId) => .direct vendorId productId (.fromParts serial unitId)
  | some (.rawHid vendorId productId usagePage usageId identity) =>
    .rawHid vendorId productId usagePage usageId (identity.map Char.toLower)
  | none => .unknown slot (.fromParts serial unitId)

/-- The key of a device while it is present. -/
def runtimeKey : DeviceStableId → String
  | .bolt receiverUid slot => s!"receiver:{receiverUid}:slot:{slot}"
  | .direct vendorId productId identity => s!"direct:{hex4 vendorId}:{hex4 productId}:{identity.key}"
  | .rawHid vendorId productId usagePage usageId identity =>
    s!"raw:{hex4 vendorId}:{hex4 productId}:{hex4 usagePage}:{hex4 usageId}:{identity}"
  | .unknown slot identity => s!"unknown:slot:{slot}:{identity.key}"

/-- The key of the path a device was reached by, without its identity. -/
def routeKey : DeviceStableId → String
  | .direct vendorId productId _ => s!"direct:{hex4 vendorId}:{hex4 productId}"
  | .bolt receiverUid slot => (DeviceStableId.bolt receiverUid slot).runtimeKey
  | .rawHid vendorId productId usagePage usageId identity =>
    (DeviceStableId.rawHid vendorId productId usagePage usageId identity).runtimeKey
  | .unknown slot identity => (DeviceStableId.unknown slot identity).runtimeKey

/-- The route-derived key that may be persisted. -/
def physicalKey (stable : DeviceStableId) : Option PhysicalDeviceKey :=
  match stable with
  | .bolt _ _ => some ⟨stable.runtimeKey⟩
  | .direct _ _ identity | .unknown _ identity => if identity.isPhysical then some ⟨stable.runtimeKey⟩ else none
  | .rawHid _ _ _ _ identity => if rawIdentityIsPhysical identity then some ⟨stable.runtimeKey⟩ else none

end DeviceStableId

/-! ## Keys of an identity -/

@[simp] theorem stripPrefix_append (pre s : String) : stripPrefix pre (pre ++ s) = some s := by
  simp [stripPrefix]

theorem hex2_toList (byte : UInt8) : (hex2 byte).toList = Lib.padded 16 2 byte.toNat := String.toList_ofList

theorem hex4_toList (n : UInt16) : (hex4 n).toList = Lib.padded 16 4 n.toNat := String.toList_ofList

theorem isHexDigit_padded (width n : Nat) : (Lib.padded 16 width n).all isHexDigit = true := by
  have hall : ∀ d : Fin 16, isHexDigit d.val.digitChar = true := by decide
  rw [List.all_eq_true]
  intro c hc
  obtain ⟨d, hd, rfl⟩ := Lib.mem_padded (by decide) hc
  exact hall ⟨d, hd⟩

/-- Two hex digits, and both zero for the zero byte alone. -/
theorem hex2_digits (byte : UInt8) : (hex2 byte).toList.length = 2 ∧ (hex2 byte).toList.all isHexDigit = true ∧
    ((hex2 byte).toList = ['0', '0'] → byte = 0) := by
  rw [hex2_toList]
  refine ⟨Lib.length_padded (by decide) (by decide) byte.toNat_lt, isHexDigit_padded 2 byte.toNat, fun h => ?_⟩
  have hzero : ['0', '0'] = Lib.padded 16 2 0 := by decide
  exact UInt8.toNat_inj.1 (Lib.padded_inj (by decide) (by decide) (h.trans hzero))

theorem four_bytes (unit : Flow.Bytes 4) : ∃ a b c d, unit.val = [a, b, c, d] := by
  obtain ⟨bytes, h⟩ := unit
  match bytes, h with
  | [a, b, c, d], _ => exact ⟨a, b, c, d, rfl⟩

theorem hexUnit_toList (unit : Flow.Bytes 4) :
    (hexUnit unit).toList = unit.val.flatMap fun byte => (hex2 byte).toList := by
  obtain ⟨a, b, c, d, h⟩ := four_bytes unit
  simp [hexUnit, h, String.join]

/-- A unit id is eight hex digits, and not all zero unless the id is. -/
theorem hexUnit_digits {unit : Flow.Bytes 4} (h : unit ≠ zeroUnit) : (hexUnit unit).toList.length = 8 ∧
    (hexUnit unit).toList.all isHexDigit = true ∧ hexUnit unit ≠ "00000000" := by
  obtain ⟨a, b, c, d, hu⟩ := four_bytes unit
  have hl := hexUnit_toList unit
  simp only [hu, List.flatMap_cons, List.flatMap_nil, List.append_nil] at hl
  obtain ⟨ha, hda, hza⟩ := hex2_digits a
  obtain ⟨hb, hdb, hzb⟩ := hex2_digits b
  obtain ⟨hc, hdc, hzc⟩ := hex2_digits c
  obtain ⟨hd, hdd, hzd⟩ := hex2_digits d
  refine ⟨?_, ?_, fun hz => h ?_⟩
  · rw [hl]
    simp only [List.length_append, ha, hb, hc, hd]
  · rw [hl]
    simp only [List.all_append, hda, hdb, hdc, hdd, Bool.and_self]
  · have hzero : (hex2 a).toList ++ ((hex2 b).toList ++ ((hex2 c).toList ++ (hex2 d).toList)) =
        ['0', '0'] ++ (['0', '0'] ++ (['0', '0'] ++ ['0', '0'])) := by
      rw [← hl, hz]
      rfl
    obtain ⟨h1, hzero⟩ := List.append_inj hzero ha
    obtain ⟨h2, hzero⟩ := List.append_inj hzero hb
    obtain ⟨h3, h4⟩ := List.append_inj hzero hc
    refine Subtype.ext ?_
    rw [hu, hza h1, hzb h2, hzc h3, hzd h4]
    rfl

theorem DeviceIdentity.key_serial (s : String) : (DeviceIdentity.serial s).key = "serial:" ++ s := rfl

theorem DeviceIdentity.key_unit (unit : Flow.Bytes 4) : (DeviceIdentity.unit unit).key = "unit:" ++ hexUnit unit := rfl

theorem DeviceIdentity.key_isPhysical {identity : DeviceIdentity} (h : identity.isPhysical = true) :
    identityFragmentIsPhysical identity.key = true := by
  cases identity with
  | serial s =>
    have hs : s ≠ "" := by simpa [DeviceIdentity.isPhysical] using h
    simp [identityFragmentIsPhysical, DeviceIdentity.key_serial, hs]
  | unit unit =>
    have hu : unit ≠ zeroUnit := by simpa [DeviceIdentity.isPhysical] using h
    obtain ⟨hlen, hall, hne⟩ := hexUnit_digits hu
    simp [identityFragmentIsPhysical, DeviceIdentity.key_unit, hlen, hall, hne]

/-- **A physical identity's key is one that parses.** -/
theorem DeviceIdentity.parse_key {identity : DeviceIdentity} (h : identity.isPhysical = true) :
    PhysicalDeviceKey.parse identity.key = some ⟨identity.key⟩ := by
  simp [PhysicalDeviceKey.parse, DeviceIdentity.key_isPhysical h]

/-! ## Keys of a route -/

namespace DeviceStableId

-- The forms are stated by `change`: the equations of `runtimeKey` are slow to derive.
theorem runtimeKey_bolt (receiverUid : String) (slot : UInt8) :
    (bolt receiverUid slot).runtimeKey = "receiver:" ++ (receiverUid ++ (":slot:" ++ toString slot)) := by
  change "receiver:" ++ receiverUid ++ ":slot:" ++ toString slot = _
  simp only [String.append_assoc]

theorem runtimeKey_direct (vendorId productId : UInt16) (identity : DeviceIdentity) :
    (direct vendorId productId identity).runtimeKey =
      "direct:" ++ (hex4 vendorId ++ (":" ++ (hex4 productId ++ (":" ++ identity.key)))) := by
  change "direct:" ++ hex4 vendorId ++ ":" ++ hex4 productId ++ ":" ++ identity.key = _
  simp only [String.append_assoc]

theorem runtimeKey_rawHid (vendorId productId usagePage usageId : UInt16) (identity : String) :
    (rawHid vendorId productId usagePage usageId identity).runtimeKey = "raw:" ++ (hex4 vendorId ++ (":" ++
      (hex4 productId ++ (":" ++ (hex4 usagePage ++ (":" ++ (hex4 usageId ++ (":" ++ identity)))))))) := by
  change "raw:" ++ hex4 vendorId ++ ":" ++ hex4 productId ++ ":" ++ hex4 usagePage ++ ":" ++ hex4 usageId ++ ":" ++
    identity = _
  simp only [String.append_assoc]

theorem runtimeKey_unknown (slot : UInt8) (identity : DeviceIdentity) :
    (unknown slot identity).runtimeKey = "unknown:slot:" ++ (toString slot ++ (":" ++ identity.key)) := by
  change "unknown:slot:" ++ toString slot ++ ":" ++ identity.key = _
  simp only [String.append_assoc]

theorem routeKey_direct (vendorId productId : UInt16) (identity : DeviceIdentity) :
    (direct vendorId productId identity).routeKey = "direct:" ++ (hex4 vendorId ++ (":" ++ hex4 productId)) := by
  change "direct:" ++ hex4 vendorId ++ ":" ++ hex4 productId = _
  simp only [String.append_assoc]

/-- **No route is named like an identity.** -/
theorem routeKey_ne_key (stable : DeviceStableId) (identity : DeviceIdentity) :
    stable.routeKey ≠ identity.key := by
  have hroute : stable.routeKey.toList.take 3 ∈ ["rec".toList, "dir".toList, "raw".toList, "unk".toList] := by
    cases stable with
    | bolt receiverUid slot =>
      change (bolt receiverUid slot).runtimeKey.toList.take 3 ∈ _
      rw [runtimeKey_bolt]
      simp
    | direct vendorId productId identity =>
      rw [routeKey_direct]
      simp
    | rawHid vendorId productId usagePage usageId identity =>
      change (rawHid vendorId productId usagePage usageId identity).runtimeKey.toList.take 3 ∈ _
      rw [runtimeKey_rawHid]
      simp
    | unknown slot identity =>
      change (unknown slot identity).runtimeKey.toList.take 3 ∈ _
      rw [runtimeKey_unknown]
      simp
  have hkey : identity.key.toList.take 3 ∈ ["ser".toList, "uni".toList] := by
    cases identity with
    | serial s =>
      rw [DeviceIdentity.key_serial]
      simp
    | unit unit =>
      rw [DeviceIdentity.key_unit]
      simp
  intro heq
  rw [heq] at hroute
  revert hroute hkey
  generalize identity.key.toList.take 3 = pre
  intro hroute hkey
  simp only [List.mem_cons, List.not_mem_nil, or_false] at hroute hkey
  rcases hkey with rfl | rfl <;> revert hroute <;> decide

end DeviceStableId

end Core
end OpenLogi
