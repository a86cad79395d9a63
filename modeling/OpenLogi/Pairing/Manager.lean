import OpenLogi.Pairing.Session
/-!
# Manager — the agent's owner of pairing sessions

One owner behind one lock admits a session, activates it with the receiver lease, and ends it.  A handler is one step;
what it drops is dropped after it, one resource at a time and still under the lock, since others see the lease free
before the lock is.  The watcher's events are the environment's, of any session and in any order, until the watcher
dies, which closes both of its channels.  The history at the end of `Manager` is not the program's.
-/
namespace OpenLogi
namespace Pairing
namespace Owner

/-! ## What is published -/

inductive PairingFailure where
  | hid (message : String)
  | receiverNotFound
  | register (message : String)
  | timeout
  | device (code : UInt8)
  | cancelled
  | receiverFull
  deriving DecidableEq

def PairingFailure.ofError : PairingError → PairingFailure
  | .hid message => .hid message
  | .receiverNotFound => .receiverNotFound
  | .register message => .register message
  | .timeout => .timeout
  | .device code => .device code
  | .cancelled => .cancelled
  | .unsupportedCommand => .hid "pairing command is not supported by the active receiver"
  | .malformedNotification what => .hid ("malformed pairing notification (" ++ what ++ ")")
  | .receiverFull => .receiverFull

structure FoundDevice where
  address : List UInt8
  name : List UInt8
  deriving DecidableEq

inductive PairingPhase where
  | searching
  | found (devices : List FoundDevice)
  | pairing
  | passkey (method : PasskeyMethod)
  | paired (slot : UInt8)
  | failed (failure : PairingFailure)
  deriving DecidableEq

/-- Whether the phase is one of discovery. -/
def PairingPhase.discovers : PairingPhase → Bool
  | .searching | .found _ => true
  | .pairing | .passkey _ | .paired _ | .failed _ => false

inductive PairingUpdate where
  | searching
  | deviceFound (device : FoundDevice)
  | passkey (method : PasskeyMethod)
  | paired (slot : UInt8)
  | failed (failure : PairingFailure)
  deriving DecidableEq

def PairingUpdate.isTerminal : PairingUpdate → Bool
  | .paired _ | .failed _ => true
  | .searching | .deviceFound _ | .passkey _ => false

/-- `found_pairing_device`: a device found again changes nothing. -/
def foundPairingDevice (pairing : Option PairingPhase) (device : FoundDevice) : PairingPhase :=
  let found := match pairing with
    | some (.found devices) => devices
    | _ => []
  .found (if found.any fun seen => seen.address = device.address then found else found ++ [device])

/-- The phase an update publishes; a cancelled session leaves no result to show. -/
def PairingUpdate.publish (pairing : Option PairingPhase) : PairingUpdate → Option PairingPhase
  | .searching => some .searching
  | .deviceFound device => some (foundPairingDevice pairing device)
  | .passkey method => some (.passkey method)
  | .paired slot => some (.paired slot)
  | .failed .cancelled => none
  | .failed failure => some (.failed failure)

/-! ## The owner -/

inductive ActivePhase where
  | discovering
  /-- A selection was admitted or a passkey received; discovery is closed. -/
  | pairing
  deriving DecidableEq

/-- The session's lease is `Manager.lease`, its completion `Manager.closed`. -/
structure ActiveSession where
  id : Nat
  devices : List UInt8 → Option DiscoveredDevice := fun _ => none
  phase : ActivePhase := .discovering

inductive SessionState where
  | idle
  | admitting (id : Nat)
  | active (session : ActiveSession)

namespace SessionState

def isIdle : SessionState → Bool
  | .idle => true
  | .admitting _ | .active _ => false

def activeId : SessionState → Option Nat
  | .active session => some session.id
  | .idle | .admitting _ => none

def admittedId : SessionState → Option Nat
  | .admitting id => some id
  | .idle | .active _ => none

/-- The one session, admitted or active. -/
def current : SessionState → Option Nat
  | .admitting id => some id
  | .active session => some session.id
  | .idle => none

end SessionState

inductive ReceiverSelector where
  | first
  | boltUid (uid : String)
  | receiverUid (productId : UInt16) (uid : String)
  deriving DecidableEq

inductive PairingControl where
  | start (session : Nat) (selector : ReceiverSelector)
  | pair (session : Nat) (device : DiscoveredDevice)
  | cancel (session : Nat)
  deriving DecidableEq

/-- What the holder of the owner's lock still has to do, in this order. -/
inductive Cleanup where
  | releaseLease (id : Nat)
  | closeCompletion (id : Nat)
  | clearPhase
  deriving DecidableEq

/-- An ended session's fields are dropped in their order: the lease, then the completion. -/
def dropSession (id : Nat) : List Cleanup := [.releaseLease id, .closeCompletion id]

/-- Who holds the receiver: an admission or the session it became, an unpair call, or anyone else. -/
inductive LeaseHolder where
  | session (id : Nat)
  | unpair
  | other
  deriving DecidableEq

inductive StartStage where
  | waiting
  | granted
  /-- Timed out or dropped; the admission is not rolled back yet. -/
  | givenUp
  deriving DecidableEq

structure StartCall where
  id : Nat
  stage : StartStage
  deriving DecidableEq

/-- A cancel that waits for the session's completion; `generation` is the owner's next id when it began. -/
structure CancelWait where
  session : Nat
  generation : Nat
  deriving DecidableEq

structure Manager where
  /-- The next id; a `u64` that no run wraps. -/
  nextId : Nat := 0
  state : SessionState := .idle
  cleanups : List Cleanup := []
  allowsIo : Bool := true
  lease : Option LeaseHolder := none
  starts : List StartCall := []
  unpairs : Nat := 0
  rescans : Nat := 0
  waits : List CancelWait := []
  closed : List Nat := []
  controls : List PairingControl := []
  watcherAlive : Bool := true
  translating : Bool := true
  /-- The translator has stopped and still has to clear the phase. -/
  stopping : Bool := false
  pairing : Option PairingPhase := none
  updates : List PairingUpdate := []
  /-- The session whose phase was published last. -/
  shownFor : Option Nat := none
  activated : List Nat := []
  ended : List Nat := []
  /-- Admissions rolled back, or dropped with the watcher. -/
  withdrawn : List Nat := []
  selected : List Nat := []

namespace Manager

variable (m : Manager)

def publish (id : Nat) (phase : Option PairingPhase) : Manager := { m with pairing := phase, shownFor := some id }

/-- The state becomes idle, and the session is dropped. -/
def endSession (id : Nat) : Manager :=
  { m with state := .idle, ended := id :: m.ended, cleanups := dropSession id }

def replaceStart (i : Nat) (call : StartCall) (stage : StartStage) : Manager :=
  { m with starts := m.starts.set i { call with stage } }

def withdrawStart (i : Nat) : Manager := { m with starts := m.starts.eraseIdx i }

/-- The lease is dropped by whoever holds it under this id. -/
def releaseLease (id : Nat) : Manager := if m.lease = some (.session id) then { m with lease := none } else m

def send (control : PairingControl) : Manager := { m with controls := m.controls ++ [control] }

/-! ### Handlers -/

/-- `begin_admission`; a start that is refused changes nothing. -/
def start : Manager :=
  if m.allowsIo && m.state.isIdle then
    { m with
      nextId := m.nextId + 1, state := .admitting m.nextId
      starts := m.starts ++ [⟨m.nextId, .waiting⟩] }
  else m

/-- `SessionAdmission::accept`: activate, publish, then send the start. -/
def accept (i : Nat) (id : Nat) (selector : ReceiverSelector) : Manager :=
  let m := m.withdrawStart i
  if m.state.admittedId = some id then
    let m := { m with state := .active { id }, activated := id :: m.activated }.publish id (some .searching)
    if m.watcherAlive then m.send (.start id selector)
    else
      let m := m.endSession id
      { m with cleanups := m.cleanups ++ [.clearPhase] }
  else m.releaseLease id

def rollBackAdmission (id : Nat) : Manager :=
  if m.state.admittedId = some id then { m with state := .idle, withdrawn := id :: m.withdrawn } else m

def pair (address : List UInt8) : Manager :=
  match m.state with
  | .active session =>
    match session.devices address with
    | some device =>
      if m.watcherAlive then
        { m.send (.pair session.id device) with
          state := .active { session with phase := .pairing }
          selected := session.id :: m.selected }.publish session.id (some .pairing)
      else m
    | none => m
  | .idle | .admitting _ => m

def cancel : Manager :=
  match m.state with
  | .active session =>
    if m.watcherAlive then
      { m.send (.cancel session.id) with waits := m.waits ++ [⟨session.id, m.nextId⟩] }
    else m
  | .idle | .admitting _ => { m with pairing := none }

/-- A cancel whose session's completion has closed: dismiss that session's result, never a newer one's. -/
def dismiss (i : Nat) (wait : CancelWait) : Manager :=
  let m := { m with waits := m.waits.eraseIdx i }
  if m.nextId = wait.generation && m.state.isIdle then { m with pairing := none } else m

/-- The update of an event, and what it changes of the active session; `none` once discovery is closed. -/
def translate (session : ActiveSession) : PairingEvent → Option (PairingUpdate × ActiveSession)
  | .searching => if session.phase = .pairing then none else some (.searching, session)
  | .deviceFound device =>
    if session.phase = .pairing then none
    else some (.deviceFound ⟨device.address, device.name⟩,
      { session with devices := Function.update session.devices device.address (some device) })
  | .passkey method => some (.passkey method, { session with phase := .pairing })
  | .paired slot => some (.paired slot, session)
  | .failed error => some (.failed (.ofError error), session)

/-- Events of an ended session are ignored, duplicate terminals too. -/
def applySessionEvent (id : Nat) (event : PairingEvent) : Manager :=
  match m.state with
  | .active session =>
    if session.id = id then
      match translate session event with
      | none => m
      | some (update, session) =>
        let m := { m with state := .active session, updates := m.updates ++ [update] }.publish id
          (update.publish m.pairing)
        if update.isTerminal then m.endSession id else m
    else m
  | .idle | .admitting _ => m

/-- `abort`, once the watcher's channel has closed; the phase is cleared after the lock is free. -/
def abort : Manager :=
  let m := { m with translating := false }
  match m.state with
  | .idle => m
  | .admitting id => { m with state := .idle, withdrawn := id :: m.withdrawn, stopping := true }
  | .active session => { m.endSession session.id with stopping := true }

def cleanUp (cleanup : Cleanup) (rest : List Cleanup) : Manager :=
  let m := { m with cleanups := rest }
  match cleanup with
  | .releaseLease id => m.releaseLease id
  | .closeCompletion id => { m with closed := id :: m.closed }
  | .clearPhase => { m with pairing := none }

end Manager

/-! ## Steps -/

inductive Event where
  | deviceIo (allowed : Bool)
  | start
  /-- The receiver lease is granted to a waiting start. -/
  | grant (i : Nat)
  | accept (i : Nat) (selector : ReceiverSelector)
  /-- A start times out, or its caller goes away; a lease it was granted is released. -/
  | giveUp (i : Nat)
  | rollBack (i : Nat)
  | unpair
  | unpairGrant
  | unpairGiveUp
  | unpairDone (ok : Bool)
  /-- Capture or a host transition takes the receiver, and frees it. -/
  | otherTakes
  | otherFrees
  | pair (address : List UInt8)
  | cancel
  | dismiss (i : Nat)
  /-- The caller of a waiting cancel goes away. -/
  | dropCancel (i : Nat)
  | event (session : Nat) (event : PairingEvent)
  | watcherDies
  | translatorStops
  | translatorClears
  | cleanUp

open Manager in
/-- One atomic action.  A handler takes the owner's lock, so it waits for the cleanups. -/
def step (m : Manager) : Event → Option Manager
  | .deviceIo allowed => some { m with allowsIo := allowed }
  | .start => if m.cleanups = [] then some m.start else none
  | .grant i =>
    match m.starts[i]? with
    | some call =>
      if call.stage = .waiting && m.lease.isNone then
        some { m.replaceStart i call .granted with lease := some (.session call.id) }
      else none
    | none => none
  | .accept i selector =>
    match m.starts[i]? with
    | some call =>
      if call.stage = .granted && m.cleanups.isEmpty then some (m.accept i call.id selector) else none
    | none => none
  | .giveUp i =>
    match m.starts[i]? with
    | some call =>
      match call.stage with
      | .waiting => some (m.replaceStart i call .givenUp)
      | .granted => some ((m.replaceStart i call .givenUp).releaseLease call.id)
      | .givenUp => none
    | none => none
  | .rollBack i =>
    match m.starts[i]? with
    | some call =>
      if call.stage = .givenUp && m.cleanups.isEmpty then some ((m.withdrawStart i).rollBackAdmission call.id)
      else none
    | none => none
  | .unpair => if m.allowsIo then some { m with unpairs := m.unpairs + 1 } else some m
  | .unpairGrant =>
    if m.unpairs ≠ 0 && m.lease.isNone then some { m with unpairs := m.unpairs - 1, lease := some .unpair } else none
  | .unpairGiveUp => if m.unpairs ≠ 0 then some { m with unpairs := m.unpairs - 1 } else none
  | .unpairDone ok =>
    if m.lease = some .unpair then some { m with lease := none, rescans := m.rescans + ok.toNat } else none
  | .otherTakes => if m.lease.isNone then some { m with lease := some .other } else none
  | .otherFrees => if m.lease = some .other then some { m with lease := none } else none
  | .pair address => if m.cleanups = [] then some (m.pair address) else none
  | .cancel => if m.cleanups = [] then some m.cancel else none
  | .dismiss i =>
    match m.waits[i]? with
    | some wait => if wait.session ∈ m.closed ∧ m.cleanups = [] then some (m.dismiss i wait) else none
    | none => none
  | .dropCancel i => if i < m.waits.length then some { m with waits := m.waits.eraseIdx i } else none
  | .event session event =>
    if m.translating && m.cleanups.isEmpty then some (m.applySessionEvent session event) else none
  | .watcherDies => some { m with watcherAlive := false }
  | .translatorStops =>
    if m.translating && !m.watcherAlive && m.cleanups.isEmpty then some m.abort else none
  | .translatorClears => if m.stopping then some { m with stopping := false, pairing := none } else none
  | .cleanUp =>
    match m.cleanups with
    | cleanup :: rest => some (m.cleanUp cleanup rest)
    | [] => none

end Owner
end Pairing
end OpenLogi
