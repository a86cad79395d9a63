import OpenLogi.Hidpp.Message
/-!
# Notification — what a receiver reports while a device is paired

The HID++ 1.0 notifications of a pairing session, parsed from the messages no register write of the session answers to.
A name is kept as its bytes: the session shows it and reads nothing off it.
-/
namespace OpenLogi
namespace Pairing

open Hidpp

def deviceConnection : UInt8 := 0x41
def unifyingLockId : UInt8 := 0x4a
def passkeyRequest : UInt8 := 0x4d
def deviceDiscovery : UInt8 := 0x4f
def discoveryStatus : UInt8 := 0x53
def pairingStatus : UInt8 := 0x54

inductive Notification where
  | discoveryInfo (counter : Nat) (kind : UInt8) (address : List UInt8) (authentication : UInt8)
  | discoveryName (counter : Nat) (name : List UInt8)
  | pairingSucceeded (slot : UInt8)
  | pairingError (code : UInt8)
  | passkey (digits : List UInt8) (value : Nat)
  | malformedPasskey
  | connected (slot : UInt8) (established : Bool)
  | unifyingLock (isOpen : Bool) (error : UInt8)
  deriving DecidableEq

/-- The payload of a message; a short one is zero-padded. -/
def payload : HidppMessage → Vector UInt8 17
  | .short d => Vector.ofFn fun i => (d.toList.drop 2).getD i.val 0
  | .long d => Vector.ofFn fun i => (d.toList.drop 2).getD i.val 0

/-- Device index, sub id and payload of a message. -/
def decode (msg : HidppMessage) : UInt8 × UInt8 × Vector UInt8 17 := (msg.header.1, msg.header.2.1, payload msg)

def isAsciiDigit (b : UInt8) : Bool := decide (48 ≤ b) && decide (b ≤ 57)

/-- The notification a message is, if it is one of pairing.  Bit 6 of the flags says that a link is not established. -/
def parseNotification (subId deviceIndex : UInt8) (p : Vector UInt8 17) : Option Notification :=
  if subId = deviceConnection then some (.connected deviceIndex (p[1] &&& 0x40 == 0))
  else if subId = deviceDiscovery then
    let counter := p[0].toNat + p[1].toNat * 256
    if p[2] = 0 then
      some (.discoveryInfo counter p[4] ((p.toList.drop 7).take 6) p[15])
    else if p[2] = 1 then
      let len := min p[3].toNat (17 - 4)
      some (.discoveryName counter ((p.toList.drop 4).take len))
    else none
  else if subId = discoveryStatus then
    if p[1] ≠ 0 then some (.pairingError p[1]) else none
  else if subId = pairingStatus then
    if p[1] ≠ 0 then some (.pairingError p[1])
    else if p[0] = 0x02 then some (.pairingSucceeded p[8])
    else none
  else if subId = passkeyRequest then
    let digits := ((p.toList.drop 1).take 6).takeWhile (· ≠ 0)
    if digits.isEmpty || !digits.all isAsciiDigit then some .malformedPasskey
    else some (.passkey digits (digits.foldl (fun acc b => acc * 10 + (b - 48).toNat) 0))
  else if subId = unifyingLockId then some (.unifyingLock (p[0] &&& 0x01 != 0) p[1])
  else none

/-- The notification a message carries. -/
def HidppMessage.notification (msg : HidppMessage) : Option Notification :=
  parseNotification (decode msg).2.1 (decode msg).1 (decode msg).2.2

end Pairing
end OpenLogi
