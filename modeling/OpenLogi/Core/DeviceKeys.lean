import OpenLogi.Core.DeviceOrder
/-!
# DeviceKeys — a device's keys tell devices apart and read back

A key is read by the prefix that names its kind and the colons after it.  The parts in front of a colon that a reader
stops at are digits, so the free text of a key (a receiver's id, a serial, a raw identity) may hold anything.
-/
namespace OpenLogi
namespace Core

open Hid (DeviceRoute hex4)

/-- Whether `value` is a runtime key whose identity does not outlast the connection. -/
def PhysicalDeviceKey.isTransient (value : String) : Bool :=
  ((directIdentityFragment value).or (unknownIdentityFragment value)).any (fun identity => identity = "unit:00000000") ||
    (rawIdentityFragment value).any fun identity => (stripPrefix "id:" identity).isSome || identity = ""

/-! ## Separators -/

theorem splitOnce_append {c : Char} (rest : List Char) : ∀ {before : List Char}, c ∉ before →
    splitOnce c (before ++ c :: rest) = some (before, rest)
  | [], _ => by simp [splitOnce]
  | x :: before, h => by
    rw [List.mem_cons, not_or] at h
    rw [List.cons_append, splitOnce, if_neg (Ne.symm h.1), splitOnce_append rest h.2]
    rfl

theorem separated_inj {c : Char} {a b x y : List Char} (ha : c ∉ a) (hb : c ∉ b) (h : a ++ c :: x = b ++ c :: y) :
    a = b ∧ x = y := by
  have hsplit := splitOnce_append x ha
  rw [h, splitOnce_append y hb] at hsplit
  simpa [eq_comm] using hsplit

theorem colon_inj {a b x y : String} (ha : ':' ∉ a.toList) (hb : ':' ∉ b.toList)
    (h : a ++ (":" ++ x) = b ++ (":" ++ y)) : a.toList = b.toList ∧ x = y := by
  have hlist := congrArg String.toList h
  simp only [String.toList_append] at hlist
  obtain ⟨hbefore, hafter⟩ := separated_inj ha hb hlist
  exact ⟨hbefore, String.toList_injective hafter⟩

theorem rsplitOnce_eq_none {pattern : List Char} : ∀ {s : List Char}, ¬ pattern <:+: s → rsplitOnce pattern s = none
  | [], _ => rfl
  | x :: s, h => by
    have hrest : ¬ pattern <:+: s := fun hwithin => h (hwithin.trans (List.suffix_cons x s).isInfix)
    have hhere : ¬ pattern.isPrefixOf (x :: s) = true := fun hprefix => h (List.isPrefixOf_iff_prefix.1 hprefix).isInfix
    rw [rsplitOnce, rsplitOnce_eq_none hrest]
    exact if_neg hhere

/-- A pattern that does not begin again in what follows is the last one. -/
theorem rsplitOnce_append {x : Char} {pattern after : List Char} (h : ¬ x :: pattern <:+: pattern ++ after) :
    ∀ before, rsplitOnce (x :: pattern) (before ++ (x :: pattern ++ after)) = some (before, after)
  | [] => by
    have hprefix : (x :: pattern).isPrefixOf (x :: (pattern ++ after)) = true :=
      List.isPrefixOf_iff_prefix.2 (List.prefix_append (x :: pattern) after)
    rw [List.nil_append, List.cons_append, rsplitOnce, rsplitOnce_eq_none h]
    dsimp only
    rw [if_pos hprefix, List.length_cons, List.drop_succ_cons, List.drop_left]
  | b :: before => by
    rw [List.cons_append, rsplitOnce, rsplitOnce_append h before]

/-! ## Digits -/

theorem hex2_inj {a b : UInt8} (h : (hex2 a).toList = (hex2 b).toList) : a = b := by
  rw [hex2_toList, hex2_toList] at h
  exact UInt8.toNat_inj.1 (Lib.padded_inj (by decide) (by decide) h)

theorem flatMap_hex2_inj {x y : List UInt8} (h : (x.flatMap fun byte => (hex2 byte).toList) =
    (y.flatMap fun byte => (hex2 byte).toList)) (hlen : x.length = y.length) : x = y := by
  induction x generalizing y with
  | nil => exact (List.length_eq_zero_iff.1 hlen.symm).symm
  | cons a x ih =>
    cases y with
    | nil => cases hlen
    | cons b y =>
      rw [List.flatMap_cons, List.flatMap_cons] at h
      obtain ⟨hfirst, hrest⟩ := List.append_inj h ((hex2_digits a).1.trans (hex2_digits b).1.symm)
      rw [hex2_inj hfirst, ih hrest (Nat.succ.inj hlen)]

theorem hexUnit_inj {a b : Flow.Bytes 4} (h : hexUnit a = hexUnit b) : a = b := by
  have hlist := congrArg String.toList h
  rw [hexUnit_toList, hexUnit_toList] at hlist
  exact Subtype.ext (flatMap_hex2_inj hlist (a.property.trans b.property.symm))

theorem hex4_inj {m n : UInt16} (h : (hex4 m).toList = (hex4 n).toList) : m = n := by
  rw [hex4_toList, hex4_toList] at h
  exact UInt16.toNat_inj.1 (Lib.padded_inj (by decide) (by decide) h)

theorem isHexWord_hex4 (n : UInt16) : isHexWord (hex4 n).toList = true := by
  have hlen : (Lib.padded 16 4 n.toNat).length = 4 := Lib.length_padded (by decide) (by decide) n.toNat_lt
  simp [isHexWord, hex4_toList, hlen, isHexDigit_padded]

/-- No separator is a digit. -/
theorem colon_notMem_hex4 (n : UInt16) : ':' ∉ (hex4 n).toList := by
  intro hmem
  have hdigits := isHexDigit_padded 4 n.toNat
  rw [hex4_toList] at hmem
  exact absurd (List.all_eq_true.1 hdigits ':' hmem) (by decide)

theorem slot_toList (slot : UInt8) : (toString slot).toList = Nat.toDigits 10 slot.toNat := String.toList_ofList

theorem isDigit_slot {slot : UInt8} {c : Char} (h : c ∈ (toString slot).toList) : c.isDigit = true := by
  rw [slot_toList] at h
  exact Nat.isDigit_of_mem_toDigits (by decide) (by decide) h

theorem colon_notMem_slot (slot : UInt8) : ':' ∉ (toString slot).toList := fun hmem =>
  absurd (isDigit_slot hmem) (by decide)

theorem parseU8_slot (slot : UInt8) : parseU8 (toString slot).toList = some slot.toNat := by
  have hsign : (toString slot).toList.head? ≠ some '+' := fun h =>
    absurd (isDigit_slot (List.mem_of_head? h)) (by decide)
  have hempty : (toString slot).toList ≠ [] := by
    rw [slot_toList]
    exact Nat.toDigits_ne_nil
  have hall : (toString slot).toList.all Char.isDigit = true := List.all_eq_true.2 fun c hc => isDigit_slot hc
  have hvalue : (toString slot).toList.foldl (fun n c => n * 10 + (c.toNat - '0'.toNat)) 0 = slot.toNat := by
    have hread : Nat.ofDigitChars 10 (Nat.toDigits 10 slot.toNat) 0 = slot.toNat := Nat.ofDigitChars_ten_toDigits
    simp only [Nat.ofDigitChars_eq_foldl, Nat.mul_comm 10] at hread
    rw [slot_toList, hread]
  have hmax : slot.toNat ≤ 255 := Nat.le_of_lt_succ slot.toNat_lt
  unfold parseU8
  rw [if_neg hsign]
  simp only [hvalue, hall, List.isEmpty_eq_false_iff.2 hempty, Bool.not_true, Bool.or_false, Bool.false_eq_true,
    if_false, if_pos hmax]

theorem slot_inj {a b : UInt8} (h : (toString a).toList = (toString b).toList) : a = b := by
  have hparse := parseU8_slot a
  rw [h, parseU8_slot] at hparse
  exact UInt8.toNat_inj.1 (Option.some.inj hparse).symm


/-! ## What a key is read as -/

namespace DeviceStableId

/-- The last slot of a receiver's key is its own, whatever the receiver's id holds. -/
theorem rsplitOnce_slot (receiverUid : String) (slot : UInt8) :
    rsplitOnce ":slot:".toList (receiverUid ++ (":slot:" ++ toString slot)).toList =
      some (receiverUid.toList, (toString slot).toList) := by
  -- the pattern has two colons, what follows its first letter has one
  have hlast : ¬ ":slot:".toList <:+: "slot:".toList ++ (toString slot).toList := fun hwithin => by
    have hcount := hwithin.sublist.count_le ':'
    rw [List.count_append, List.count_eq_zero_of_not_mem (colon_notMem_slot slot)] at hcount
    exact absurd hcount (by decide)
  rw [String.toList_append, String.toList_append]
  exact rsplitOnce_append hlast receiverUid.toList

theorem receiverKeyIsValid_bolt (receiverUid : String) (slot : UInt8) :
    receiverKeyIsValid (bolt receiverUid slot).runtimeKey = !receiverUid.toList.isEmpty := by
  rw [runtimeKey_bolt]
  unfold receiverKeyIsValid
  rw [stripPrefix_append, Option.bind_some, rsplitOnce_slot]
  simp [parseU8_slot]

theorem directIdentityFragment_direct (vendorId productId : UInt16) (identity : DeviceIdentity) :
    directIdentityFragment (direct vendorId productId identity).runtimeKey = some identity.key := by
  have hvendor := splitOnce_append ((hex4 productId).toList ++ ':' :: identity.key.toList) (colon_notMem_hex4 vendorId)
  have hproduct := splitOnce_append identity.key.toList (colon_notMem_hex4 productId)
  rw [runtimeKey_direct]
  simp [directIdentityFragment, hvendor, hproduct, isHexWord_hex4]

theorem rawIdentityFragment_rawHid (vendorId productId usagePage usageId : UInt16) {identity : String}
    (h : identity ≠ "") :
    rawIdentityFragment (rawHid vendorId productId usagePage usageId identity).runtimeKey = some identity := by
  have husage := splitOnce_append identity.toList (colon_notMem_hex4 usageId)
  have hpage := splitOnce_append ((hex4 usageId).toList ++ ':' :: identity.toList) (colon_notMem_hex4 usagePage)
  have hproduct := splitOnce_append ((hex4 usagePage).toList ++ ':' :: ((hex4 usageId).toList ++ ':' :: identity.toList))
    (colon_notMem_hex4 productId)
  have hvendor := splitOnce_append ((hex4 productId).toList ++ ':' :: ((hex4 usagePage).toList ++
    ':' :: ((hex4 usageId).toList ++ ':' :: identity.toList))) (colon_notMem_hex4 vendorId)
  rw [runtimeKey_rawHid]
  simp [rawIdentityFragment, hvendor, hproduct, hpage, husage, isHexWord_hex4, h]

theorem unknownIdentityFragment_unknown (slot : UInt8) (identity : DeviceIdentity) :
    unknownIdentityFragment (unknown slot identity).runtimeKey = some identity.key := by
  have hslot := splitOnce_append identity.key.toList (colon_notMem_slot slot)
  rw [runtimeKey_unknown]
  unfold unknownIdentityFragment
  rw [stripPrefix_append, Option.bind_eq_bind, Option.bind_some]
  simp [hslot, parseU8_slot]

/-- A receiver's key is read as no other kind of key. -/
theorem fragments_bolt (receiverUid : String) (slot : UInt8) :
    directIdentityFragment (bolt receiverUid slot).runtimeKey = none ∧
      rawIdentityFragment (bolt receiverUid slot).runtimeKey = none ∧
      unknownIdentityFragment (bolt receiverUid slot).runtimeKey = none ∧
      identityFragmentIsPhysical (bolt receiverUid slot).runtimeKey = false := by
  rw [runtimeKey_bolt]
  simp [directIdentityFragment, rawIdentityFragment, unknownIdentityFragment, identityFragmentIsPhysical, stripPrefix]

theorem rawIdentityFragment_direct (vendorId productId : UInt16) (identity : DeviceIdentity) :
    rawIdentityFragment (direct vendorId productId identity).runtimeKey = none := by
  rw [runtimeKey_direct]
  simp [rawIdentityFragment, stripPrefix]

theorem fragments_unknown (slot : UInt8) (identity : DeviceIdentity) :
    directIdentityFragment (unknown slot identity).runtimeKey = none ∧
      rawIdentityFragment (unknown slot identity).runtimeKey = none := by
  rw [runtimeKey_unknown]
  simp [directIdentityFragment, rawIdentityFragment, stripPrefix]

theorem fragments_rawHid (vendorId productId usagePage usageId : UInt16) (identity : String) :
    directIdentityFragment (rawHid vendorId productId usagePage usageId identity).runtimeKey = none ∧
      unknownIdentityFragment (rawHid vendorId productId usagePage usageId identity).runtimeKey = none := by
  rw [runtimeKey_rawHid]
  simp [directIdentityFragment, unknownIdentityFragment, stripPrefix]

end DeviceStableId

/-! ## Keys that read back -/

theorem stripPrefix_eq_some {pre s rest : String} (h : stripPrefix pre s = some rest) : s = pre ++ rest := by
  unfold stripPrefix at h
  split at h
  · rename_i hprefix
    obtain ⟨tail, htail⟩ := List.isPrefixOf_iff_prefix.1 hprefix
    cases h
    apply String.toList_injective
    rw [String.toList_append, String.toList_ofList, ← htail, List.drop_left]
  · cases h

theorem identity_ne_zeroUnit {identity : String} (h : identityFragmentIsPhysical identity = true) :
    identity ≠ "unit:00000000" := by
  rintro rfl
  exact absurd h (by decide)

theorem rawIdentity_lasts {identity : String} (h : rawIdentityIsPhysical identity = true) :
    stripPrefix "id:" identity = none ∧ identity ≠ "" := by
  constructor
  · cases hid : stripPrefix "id:" identity with
    | none => rfl
    | some node =>
      rw [stripPrefix_eq_some hid] at h
      simp [rawIdentityIsPhysical, stripPrefix] at h
  · rintro rfl
    exact absurd h (by decide)

namespace DeviceStableId

/-- **A receiver's key parses when it names the receiver.** -/
theorem parse_bolt (receiverUid : String) (slot : UInt8) :
    PhysicalDeviceKey.parse (bolt receiverUid slot).runtimeKey =
      if receiverUid = "" then none else some ⟨(bolt receiverUid slot).runtimeKey⟩ := by
  obtain ⟨hdirect, hraw, hunknown, hidentity⟩ := fragments_bolt receiverUid slot
  unfold PhysicalDeviceKey.parse
  rw [receiverKeyIsValid_bolt, hdirect, hraw, hunknown, hidentity]
  by_cases huid : receiverUid = ""
  · simp [huid]
  · simp [huid]

theorem isTransient_bolt (receiverUid : String) (slot : UInt8) :
    PhysicalDeviceKey.isTransient (bolt receiverUid slot).runtimeKey = false := by
  obtain ⟨hdirect, hraw, hunknown, -⟩ := fragments_bolt receiverUid slot
  simp [PhysicalDeviceKey.isTransient, hdirect, hraw, hunknown]

/-- A receiver that goes by no id. -/
def Unnamed : DeviceStableId → Prop
  | .bolt receiverUid _ => receiverUid = ""
  | .direct _ _ _ | .rawHid _ _ _ _ _ | .unknown _ _ => False

/-- **A physical key reads back and does not pass for a transient one**, unless it names a receiver by nothing. -/
theorem parse_physicalKey {stable : DeviceStableId} (hnamed : ¬ stable.Unnamed) {key : PhysicalDeviceKey}
    (h : stable.physicalKey = some key) :
    PhysicalDeviceKey.parse key.asStr = some key ∧ PhysicalDeviceKey.isTransient key.asStr = false := by
  cases stable with
  | bolt receiverUid slot =>
    cases h
    exact ⟨(parse_bolt receiverUid slot).trans (if_neg hnamed), isTransient_bolt receiverUid slot⟩
  | direct vendorId productId identity =>
    obtain ⟨hphysical, hkey⟩ := Option.ite_none_right_eq_some.1 h
    cases hkey
    have hfragment := directIdentityFragment_direct vendorId productId identity
    have hraw := rawIdentityFragment_direct vendorId productId identity
    have hidentity := DeviceIdentity.key_isPhysical hphysical
    constructor
    · simp [PhysicalDeviceKey.parse, hfragment, hidentity]
    · simp [PhysicalDeviceKey.isTransient, hfragment, hraw, identity_ne_zeroUnit hidentity]
  | rawHid vendorId productId usagePage usageId identity =>
    obtain ⟨hphysical, hkey⟩ := Option.ite_none_right_eq_some.1 h
    cases hkey
    obtain ⟨hid, hempty⟩ := rawIdentity_lasts hphysical
    have hfragment := rawIdentityFragment_rawHid vendorId productId usagePage usageId hempty
    obtain ⟨hdirect, hunknown⟩ := fragments_rawHid vendorId productId usagePage usageId identity
    constructor
    · simp [PhysicalDeviceKey.parse, hfragment, hphysical]
    · simp [PhysicalDeviceKey.isTransient, hfragment, hdirect, hunknown, hid, hempty]
  | unknown slot identity =>
    obtain ⟨hphysical, hkey⟩ := Option.ite_none_right_eq_some.1 h
    cases hkey
    have hfragment := unknownIdentityFragment_unknown slot identity
    obtain ⟨hdirect, hraw⟩ := fragments_unknown slot identity
    have hidentity := DeviceIdentity.key_isPhysical hphysical
    constructor
    · simp [PhysicalDeviceKey.parse, hfragment, hidentity]
    · simp [PhysicalDeviceKey.isTransient, hfragment, hdirect, hraw, identity_ne_zeroUnit hidentity]

/-! ## Keys that tell devices apart -/

variable {a b : DeviceIdentity}

theorem key_inj (h : a.key = b.key) : a = b := by
  cases a <;> cases b
  case serial.serial => simpa [DeviceIdentity.key_serial] using h
  case unit.unit a b =>
    have hunit : hexUnit a = hexUnit b := by simpa [DeviceIdentity.key_unit] using h
    rw [hexUnit_inj hunit]
  all_goals
    have hfirst := congrArg (fun key => key.toList.head?) h
    simp [DeviceIdentity.key_serial, DeviceIdentity.key_unit] at hfirst

theorem bolt_inj {u v : String} {m n : UInt8} (h : (bolt u m).runtimeKey = (bolt v n).runtimeKey) :
    bolt u m = bolt v n := by
  rw [runtimeKey_bolt, runtimeKey_bolt, String.append_right_inj] at h
  have hsplit := rsplitOnce_slot u m
  rw [h, rsplitOnce_slot v n, Option.some_inj, Prod.mk.injEq] at hsplit
  rw [String.toList_injective hsplit.1, slot_inj hsplit.2]

theorem direct_inj {v w p q : UInt16} (h : (direct v p a).runtimeKey = (direct w q b).runtimeKey) :
    direct v p a = direct w q b := by
  rw [runtimeKey_direct, runtimeKey_direct, String.append_right_inj] at h
  obtain ⟨hvendor, h⟩ := colon_inj (colon_notMem_hex4 v) (colon_notMem_hex4 w) h
  obtain ⟨hproduct, h⟩ := colon_inj (colon_notMem_hex4 p) (colon_notMem_hex4 q) h
  rw [hex4_inj hvendor, hex4_inj hproduct, key_inj h]

theorem rawHid_inj {v w p q g k i j : UInt16} {a b : String}
    (h : (rawHid v p g i a).runtimeKey = (rawHid w q k j b).runtimeKey) : rawHid v p g i a = rawHid w q k j b := by
  rw [runtimeKey_rawHid, runtimeKey_rawHid, String.append_right_inj] at h
  obtain ⟨hvendor, h⟩ := colon_inj (colon_notMem_hex4 v) (colon_notMem_hex4 w) h
  obtain ⟨hproduct, h⟩ := colon_inj (colon_notMem_hex4 p) (colon_notMem_hex4 q) h
  obtain ⟨hpage, h⟩ := colon_inj (colon_notMem_hex4 g) (colon_notMem_hex4 k) h
  obtain ⟨husage, h⟩ := colon_inj (colon_notMem_hex4 i) (colon_notMem_hex4 j) h
  rw [hex4_inj hvendor, hex4_inj hproduct, hex4_inj hpage, hex4_inj husage, h]

theorem unknown_inj {m n : UInt8} (h : (unknown m a).runtimeKey = (unknown n b).runtimeKey) :
    unknown m a = unknown n b := by
  rw [runtimeKey_unknown, runtimeKey_unknown, String.append_right_inj] at h
  obtain ⟨hslot, h⟩ := colon_inj (colon_notMem_slot m) (colon_notMem_slot n) h
  rw [slot_inj hslot, key_inj h]

/-- **Two ids with one runtime key are one.** -/
theorem runtimeKey_injective : Function.Injective runtimeKey := by
  intro a b h
  cases a <;> cases b
  case bolt.bolt => exact bolt_inj h
  case direct.direct => exact direct_inj h
  case rawHid.rawHid => exact rawHid_inj h
  case unknown.unknown => exact unknown_inj h
  -- two kinds differ within their first two letters
  all_goals
    have hkind := congrArg (fun key => key.toList.take 2) h
    simp [runtimeKey_bolt, runtimeKey_direct, runtimeKey_rawHid, runtimeKey_unknown] at hkind

/-- The runtime key is this id's alone, and a physical key reads back and is no transient one. -/
structure KeyedWell (stable : DeviceStableId) : Prop where
  alone : ∀ other : DeviceStableId, other.runtimeKey = stable.runtimeKey → other = stable
  readsBack : ∀ key, stable.physicalKey = some key →
    PhysicalDeviceKey.parse key.asStr = some key ∧ PhysicalDeviceKey.isTransient key.asStr = false

theorem keyedWell_iff_named (stable : DeviceStableId) : stable.KeyedWell ↔ ¬ stable.Unnamed := by
  constructor
  · intro h
    cases stable with
    | bolt receiverUid slot =>
      rintro rfl
      have hread := (h.readsBack _ rfl).1
      rw [parse_bolt, if_pos rfl] at hread
      cases hread
    | direct _ _ _ | rawHid _ _ _ _ _ | unknown _ _ => exact id
  · exact fun h => ⟨fun other heq => runtimeKey_injective heq, fun key hkey => parse_physicalKey h hkey⟩

end DeviceStableId

/-- A route through a receiver whose id is empty. -/
def NamelessReceiver : Option DeviceRoute → Prop
  | some (.bolt receiverUid _) | some (.unifying receiverUid _) => receiverUid = ""
  | some (.direct _ _) | some (.rawHid _ _ _ _ _) | none => False

theorem lower_eq_empty (s : String) : s.map Char.toLower = "" ↔ s = "" := by
  rw [← String.toList_eq_nil_iff, String.toList_map, List.map_eq_nil_iff, String.toList_eq_nil_iff]

theorem unnamed_fromParts (route : Option DeviceRoute) (slot : UInt8) (serial : Option String)
    (unitId : Flow.Bytes 4) : (DeviceStableId.fromParts route slot serial unitId).Unnamed ↔ NamelessReceiver route := by
  rcases route with _ | ⟨receiverUid, slot⟩ | ⟨receiverUid, slot⟩ | _ | _
  · exact Iff.rfl
  · exact lower_eq_empty receiverUid
  · exact lower_eq_empty receiverUid
  · exact Iff.rfl
  · exact Iff.rfl

/-- **A device's keys are its own and read back exactly when no receiver without an id is on its route.** -/
theorem keys_sound_iff (route : Option DeviceRoute) (slot : UInt8) (serial : Option String) (unitId : Flow.Bytes 4) :
    (DeviceStableId.fromParts route slot serial unitId).KeyedWell ↔ ¬ NamelessReceiver route := by
  rw [DeviceStableId.keyedWell_iff_named, unnamed_fromParts]

/-- The key of a receiver without an id is not one that parses. -/
theorem nameless_receiver_unread :
    (DeviceStableId.fromParts (some (.bolt "" 1)) 1 none zeroUnit).physicalKey = some ⟨"receiver::slot:1"⟩ ∧
      PhysicalDeviceKey.parse "receiver::slot:1" = none ∧
      ¬ (DeviceStableId.fromParts (some (.bolt "" 1)) 1 none zeroUnit).KeyedWell := by
  have hkey : (DeviceStableId.fromParts (some (.bolt "" 1)) 1 none zeroUnit).physicalKey = some ⟨"receiver::slot:1"⟩ := by
    rw [DeviceStableId.fromParts, (lower_eq_empty "").2 rfl]
    decide
  have hparse : PhysicalDeviceKey.parse "receiver::slot:1" = none := by decide
  refine ⟨hkey, hparse, fun h => ?_⟩
  have hread := (h.readsBack _ hkey).1
  rw [hparse] at hread
  cases hread

end Core
end OpenLogi
