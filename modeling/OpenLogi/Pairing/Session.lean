import OpenLogi.Pairing.Notification
/-!
# Session — pairing a device with a Bolt or a Unifying receiver

One loop drives both families: a Bolt session discovers, then pairs the device that was picked, a Unifying session opens
a lock and waits.  What the loop's `select!` takes next is the environment's choice, and so is the reply to each
register write.
-/
namespace OpenLogi
namespace Pairing

open Hidpp

inductive ReceiverFamily where
  | bolt
  | unifying
  deriving DecidableEq

inductive PairingError where
  | hid (text : String)
  | receiverNotFound
  | register (text : String)
  | timeout
  | device (code : UInt8)
  | cancelled
  | unsupportedCommand
  | malformedNotification (what : String)
  | receiverFull
  deriving DecidableEq

structure DiscoveredDevice where
  address : List UInt8
  authentication : UInt8
  kind : UInt8
  name : List UInt8
  deriving DecidableEq

/-- Pairing entropy: keyboards use 20 bits, everything else 10. -/
def DiscoveredDevice.entropy (device : DiscoveredDevice) : UInt8 := if device.kind = 0x01 then 20 else 10

inductive Click where
  | left
  | right
  deriving DecidableEq

def passkeyToClicks (value : Nat) : List Click :=
  (List.range 10).reverse.map fun bit => if value.testBit bit then .right else .left

inductive PasskeyMethod where
  | keyboard (digits : List UInt8)
  | pointer (passkey : List UInt8) (clicks : List Click)
  deriving DecidableEq

inductive PairingEvent where
  | searching
  | deviceFound (device : DiscoveredDevice)
  | passkey (method : PasskeyMethod)
  | paired (slot : UInt8)
  | failed (error : PairingError)
  deriving DecidableEq

inductive PairingCommand where
  | pair (device : DiscoveredDevice)
  | cancel
  deriving DecidableEq

/-- The two discovery frames of one device. -/
structure PartialDevice where
  kind : Option UInt8
  address : Option (List UInt8)
  authentication : Option UInt8
  name : Option (List UInt8)
  emitted : Bool
  deriving DecidableEq

namespace PartialDevice

def default : PartialDevice := ⟨none, none, none, none, false⟩

/-- The device once both frames have arrived, exactly once. -/
def build (entry : PartialDevice) : Option DiscoveredDevice × PartialDevice :=
  if entry.emitted then (none, entry)
  else
    match entry.kind, entry.address, entry.authentication, entry.name with
    | some kind, some address, some authentication, some name =>
      (some ⟨address, authentication, kind &&& 0x0f, name⟩, { entry with emitted := true })
    | _, _, _, _ => (none, entry)

end PartialDevice

inductive SessionState where
  | boltDiscovery (discovery : Nat → Option PartialDevice)
  | boltPairing (authentication : UInt8)
  | unifyingOpening
  | unifyingPairing

def SessionState.ofFamily : ReceiverFamily → SessionState
  | .bolt => .boltDiscovery fun _ => none
  | .unifying => .unifyingOpening

/-- The error for a Unifying lock that the receiver never confirmed open. -/
def lockNotOpened : PairingError := .register "the receiver did not open the pairing lock"

namespace SessionState

def selectBoltDevice (state : SessionState) (device : DiscoveredDevice) : Except PairingError SessionState :=
  match state with
  | .boltDiscovery _ | .boltPairing _ => .ok (.boltPairing device.authentication)
  | .unifyingOpening | .unifyingPairing => .error .unsupportedCommand

/-- Whether a lock-state notification confirms the lock just opened, and the state after it. -/
def unifyingLock (state : SessionState) (isOpen : Bool) (error : UInt8) : Except PairingError (Bool × SessionState) :=
  if error ≠ 0 then .error (.device error)
  else
    match isOpen, state with
    | true, .unifyingOpening => .ok (true, .unifyingPairing)
    | true, state => .ok (false, state)
    | false, .unifyingOpening => .error lockNotOpened
    | false, _ => .error .timeout

end SessionState

/-! ### Register writes -/

structure RegisterWrite where
  address : UInt8
  payload : List UInt8
  deriving DecidableEq

def unifyingPairingRegister : UInt8 := 0xb2
def boltDiscoveryRegister : UInt8 := 0xc0
def boltPairingRegister : UInt8 := 0xc1

/-- Discovery or lock window opened on the receiver, in seconds. -/
def discoveryTimeout : UInt8 := 30

/-- `WIRELESS | SOFTWARE_PRESENT`. -/
def pairingNotifications : UInt32 := 0x000900

def notificationFlags (flags : UInt32) : RegisterWrite :=
  ⟨0x00, [(flags >>> 16).toUInt8, (flags >>> 8).toUInt8, flags.toUInt8]⟩

/-- The write that opens discovery, or the lock; a session starts in one of these two states. -/
def SessionState.opening : SessionState → Option RegisterWrite
  | .boltDiscovery _ => some ⟨boltDiscoveryRegister, [discoveryTimeout, 0x01, 0x00]⟩
  | .unifyingOpening => some ⟨unifyingPairingRegister, [0x01, 0x00, discoveryTimeout]⟩
  | .boltPairing _ | .unifyingPairing => none

def longPayload (bytes : List UInt8) : List UInt8 := bytes ++ List.replicate (16 - bytes.length) 0

def pairBoltDevice (device : DiscoveredDevice) : RegisterWrite :=
  ⟨boltPairingRegister, longPayload ([0x01, 0x00] ++ device.address ++ [device.authentication, device.entropy])⟩

/-- The cancellation of each phase. -/
def cancel : SessionState → RegisterWrite
  | .boltDiscovery _ => ⟨boltDiscoveryRegister, [discoveryTimeout, 0x02, 0x00]⟩
  | .boltPairing _ => ⟨boltPairingRegister, longPayload [0x02]⟩
  | .unifyingOpening | .unifyingPairing => ⟨unifyingPairingRegister, [0x02, 0x00, 0x00]⟩

/-! ### The loop -/

/-- What the loop's `select!` takes next.  A closed channel reads `none`. -/
inductive Input where
  | deadline
  | lockConfirmation
  | command (cmd : Option PairingCommand)
  | notification (msg : Option HidppMessage)
  deriving DecidableEq

structure Session where
  state : SessionState
  events : List PairingEvent
  writes : List RegisterWrite

/-- How a session ended, or `none` while it waits. -/
abbrev Ended := Option (Except PairingError Unit)

namespace Session

def send (s : Session) (event : PairingEvent) : Session := { s with events := s.events ++ [event] }

/-- The reply to the n-th register write. -/
abbrev Replies := Nat → Except PairingError Unit

def write (s : Session) (w : RegisterWrite) : Session := { s with writes := s.writes ++ [w] }

def discover (s : Session) (discovery : Nat → Option PartialDevice) (counter : Nat)
    (fill : PartialDevice → PartialDevice) : Session :=
  let built := (fill ((discovery counter).getD .default)).build
  let s := { s with state := .boltDiscovery fun c => if c = counter then some built.2 else discovery c }
  match built.1 with
  | some device => s.send (.deviceFound device)
  | none => s

def onNotification (s : Session) : Notification → Session × Ended
  | .discoveryInfo counter kind address authentication =>
    match s.state with
    | .boltDiscovery discovery =>
      (s.discover discovery counter fun entry =>
        { entry with kind := some kind, address := some address, authentication := some authentication }, none)
    | _ => (s, none)
  | .discoveryName counter name =>
    match s.state with
    | .boltDiscovery discovery => (s.discover discovery counter fun entry => { entry with name := some name }, none)
    | _ => (s, none)
  | .passkey digits value =>
    let pointer := PasskeyMethod.pointer digits (passkeyToClicks value)
    let method :=
      match s.state with
      | .boltPairing authentication => if authentication &&& 0x01 ≠ 0 then .keyboard digits else pointer
      | _ => pointer
    (s.send (.passkey method), none)
  | .malformedPasskey => (s, some (.error (.malformedNotification "passkey digits")))
  | .pairingSucceeded slot => (s.send (.paired slot), some (.ok ()))
  | .pairingError code => (s, some (.error (.device code)))
  | .connected slot established =>
    match s.state, established with
    | .unifyingPairing, true => (s.send (.paired slot), some (.ok ()))
    | _, _ => (s, none)
  | .unifyingLock isOpen error =>
    match s.state.unifyingLock isOpen error with
    | .error e => (s, some (.error e))
    | .ok (confirmed, state) =>
      let s := { s with state := state }
      (if confirmed then s.send .searching else s, none)

/-- One turn of the loop.  The confirmation window is polled only while the lock is awaited. -/
def turn (replies : Replies) (s : Session) : Input → Session × Ended
  | .deadline => (s, some (.error .timeout))
  | .lockConfirmation =>
    match s.state with
    | .unifyingOpening => (s, some (.error lockNotOpened))
    | _ => (s, none)
  | .command (some (.pair device)) =>
    match s.state.selectBoltDevice device with
    | .error e => (s, some (.error e))
    | .ok state =>
      let s := { s with state := state }
      match replies s.writes.length with
      | .error e => (s.write (pairBoltDevice device), some (.error e))
      | .ok () => (s.write (pairBoltDevice device), none)
  | .command (some .cancel) | .command none => (s, some (.error .cancelled))
  | .notification none => (s, some (.error (.hid "receiver channel closed")))
  | .notification (some msg) =>
    match HidppMessage.notification msg with
    | none => (s, none)
    | some note => s.onNotification note

def loop (replies : Replies) : Session → List Input → Session × Ended
  | s, [] => (s, none)
  | s, input :: inputs =>
    match s.turn replies input with
    | (s, some result) => (s, some result)
    | (s, none) => loop replies s inputs

/-- The setup of a session: the notification flags, then discovery or the lock. -/
def setUp (replies : Replies) (found : UInt32) (s : Session) : Session × Ended :=
  let s' := s.write (notificationFlags (found ||| pairingNotifications))
  match replies s.writes.length with
  | .error e => (s', some (.error e))
  | .ok () =>
    match s'.state.opening with
    | none => (s', none)
    | some w =>
      match replies s'.writes.length with
      | .error e => (s'.write w, some (.error e))
      | .ok () =>
        -- Discovery is reported once its write is acknowledged, a lock once the receiver says so.
        match s'.state with
        | .unifyingOpening => (s'.write w, none)
        | _ => ((s'.write w).send .searching, none)

def drive (replies : Replies) (found : UInt32) (s : Session) (inputs : List Input) : Session × Ended :=
  match s.setUp replies found with
  | (s, some result) => (s, some result)
  | (s, none) => s.loop replies inputs

end Session

open Session in
/-- An unsuccessful session is cancelled in the phase it reached. -/
def finish : Session × Ended → Session × Ended
  | (s, some (.error e)) => (s.write (cancel s.state), some (.error e))
  | (s, ended) => (s, ended)

/-- A session as `run_session` runs it. -/
def runSession (replies : Session.Replies) (family : ReceiverFamily) (found : UInt32) (inputs : List Input) :
    Session × Ended :=
  finish (Session.drive replies found ⟨.ofFamily family, [], []⟩ inputs)

end Pairing
end OpenLogi
