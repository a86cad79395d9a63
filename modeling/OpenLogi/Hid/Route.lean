/-!
# Route — how a controllable device is reached

`DeviceRoute` and the name it displays under.  A write order keys its queues by that name.
-/
namespace OpenLogi
namespace Hid

inductive DeviceRoute where
  | bolt (receiverUid : String) (slot : UInt8)
  | unifying (receiverUid : String) (slot : UInt8)
  | direct (vendorId productId : UInt16)
  | rawHid (vendorId productId usagePage usageId : UInt16) (identity : String)
  deriving DecidableEq

/-- `{:04x}`. -/
def hex4 (n : UInt16) : String :=
  let ds := Nat.toDigits 16 n.toNat
  String.ofList (List.replicate (4 - ds.length) '0' ++ ds)

instance : ToString DeviceRoute where
  toString
    | .bolt receiverUid slot | .unifying receiverUid slot => s!"slot {slot} on receiver {receiverUid}"
    | .direct vendorId productId => s!"direct {hex4 vendorId}:{hex4 productId}"
    | .rawHid vendorId productId usagePage usageId identity =>
      s!"raw {hex4 vendorId}:{hex4 productId} usage {hex4 usagePage}:{hex4 usageId} ({identity})"

end Hid
end OpenLogi
