import OpenLogi.Flow.Detector
import OpenLogi.Flow.Incoming
import OpenLogi.Hid.Route
import OpenLogi.Lib.Run
/-!
# Actor — the one owner of a Flow generation's state

`Actor` and its handlers, over the ledger of incoming transfers and the one transfer this host sends.  A connection of
a peer's session, the instant and the id a transfer gets come with the events; what a handler sends is kept in
`outputs`.
-/
namespace OpenLogi
namespace Flow

open OpenLogi.Core (PhysicalDeviceKey)
open OpenLogi.Scroll (F64)
open Handoff (IncomingLedger HandoffRequest HandoffResult EntryPoint ArmDecision Side matchDevices)
open Lib (run Along EveryState everyState_iff_along_of_inv)

variable {F : Type}

/-! ## Configuration -/

inductive FlowEdge where
  | left
  | right
  | top
  | bottom
  deriving DecidableEq

/-- Which peer lies beyond an edge. -/
structure FlowLayout where
  edge : FlowEdge
  peer : String
  deriving DecidableEq

/-- A device that takes part, and the slots that reach this host and its peers. -/
structure FlowDevice where
  key : PhysicalDeviceKey
  selfSlot : UInt8
  peerSlots : List (String × UInt8)
  deriving DecidableEq

def FlowDevice.peerSlot (device : FlowDevice) (peer : String) : Option UInt8 :=
  (device.peerSlots.find? fun slot => slot.1 = peer).map Prod.snd

structure FlowConfig where
  enabled : Bool
  requireModifier : Bool
  layout : List FlowLayout
  devices : List FlowDevice

/-! ## The devices joined with the inventory -/

/-- One inventory device as the orchestrator reports it. -/
structure InventoryDevice where
  key : PhysicalDeviceKey
  route : Option Hid.DeviceRoute
  serial : Option String
  unitId : Bytes 4
  kind : DeviceKind
  online : Bool

/-- A configured device joined with its record, and what addresses it. -/
structure JoinedDevice where
  config : FlowDevice
  identity : DeviceIdentity
  route : Option Hid.DeviceRoute
  kind : DeviceKind
  online : Bool
  deriving DecidableEq

/-- A device this host can send to one peer. -/
structure OutgoingDevice where
  route : Hid.DeviceRoute
  slot : UInt8
  identity : DeviceIdentity
  deriving DecidableEq

structure JoinedDevices where
  listed : List JoinedDevice
  unlisted : List PhysicalDeviceKey
  deriving DecidableEq

def DeviceKind.isKeyboardFamily : DeviceKind → Bool
  | .keyboard | .numpad => true
  | _ => false

/-- Pointing devices move first, keyboards last. -/
def handoffRank (kind : DeviceKind) : Nat :=
  if kind.isPointing then 0 else if kind.isKeyboardFamily then 2 else 1

/-- The identity a device is correlated by; `none` without a serial and a unit id. -/
def identity (key : PhysicalDeviceKey) (record : InventoryDevice) : Option DeviceIdentity :=
  let serial := (record.serial.filter fun serial => serial ≠ "").toList.map fun serial =>
    (⟨.known .serial, serial.toUTF8.toList⟩ : DeviceIdentifier)
  let unit := if record.unitId ≠ Core.zeroUnit then [⟨.known .unitId, record.unitId.val⟩] else []
  match serial ++ unit with
  | [] => none
  | ids => some ⟨ids, key.asStr⟩

/-- How good a record of a device seen on several routes is; the least is taken. -/
def InventoryDevice.rank (record : InventoryDevice) : Nat :=
  (if record.online then 0 else 2) + if record.route.isNone then 1 else 0

def InventoryDevice.describes (record : InventoryDevice) (key : PhysicalDeviceKey) : Bool :=
  record.key = key || key.namesIdentity record.serial record.unitId

def JoinedDevice.before (a b : JoinedDevice) : Bool :=
  handoffRank a.kind < handoffRank b.kind ||
    handoffRank a.kind = handoffRank b.kind && a.config.key.asStr ≤ b.config.key.asStr

namespace JoinedDevices

/-- Join the configured devices with the inventory. -/
def join (config : FlowConfig) (inventory : List InventoryDevice) : JoinedDevices :=
  let record := fun configured : FlowDevice =>
    minBy (fun a b => compare a.rank b.rank) (inventory.filter fun record => record.describes configured.key)
  let listed := config.devices.filterMap fun configured =>
    (record configured).bind fun record =>
      (identity configured.key record).map fun id => ⟨configured, id, record.route, record.kind, record.online⟩
  let unlisted := (config.devices.filter fun configured => (record configured).isNone).map FlowDevice.key
  ⟨listed.insertionSort fun a b => a.before b = true, unlisted⟩

/-- What the ledger is asked about. -/
def locals (devices : JoinedDevices) : LocalDevices :=
  ⟨devices.listed.map fun device => ⟨device.config.key, device.identity, device.kind, device.online⟩, devices.unlisted⟩

/-- The online devices that can be sent to a peer, in handoff order. -/
def outgoing (devices : JoinedDevices) (peer : String) : List OutgoingDevice :=
  (devices.listed.filter JoinedDevice.online).filterMap fun device =>
    device.route.bind fun route => (device.config.peerSlot peer).map fun slot => ⟨route, slot, device.identity⟩

/-- The devices this host holds. -/
def held (devices : JoinedDevices) : List DeviceIdentity :=
  (devices.listed.filter JoinedDevice.online).map JoinedDevice.identity

end JoinedDevices

/-! ## The actor -/

inductive LinkState where
  | connected
  | degraded
  | lost
  deriving DecidableEq

structure ActorPeer where
  key : PublicKey
  name : String
  link : LinkState

/-- The one transfer this host is sending; `result` until the peer's result was passed to it. -/
structure Outgoing where
  peer : PublicKey
  transferId : UInt64
  result : Bool
  deriving DecidableEq

/-- A task that sends a transfer, up to the handling of its report. -/
structure SenderTask (F : Type) where
  peer : PublicKey
  transferId : UInt64
  devices : List OutgoingDevice
  entry : EntryPoint F

/-- What the actor gives out. -/
inductive Output (F : Type) where
  | respond (peer : PublicKey) (decision : ArmDecision)
  /-- Any request but a handoff. -/
  | refuse (peer : PublicKey)
  | result (peer : PublicKey) (result : HandoffResult)
  /-- A result passed to the sending task. -/
  | deliver (transferId : UInt64) (result : HandoffResult)
  | place (entry : EntryPoint F)
  | configure (sides : ArmedSides) (requireModifier : Bool)
  | status (enabled : Bool) (peers : List (String × LinkState))
  | state (enabled : Bool) (announced : List (DeviceIdentity × UInt8 × Bool)) (held : List DeviceIdentity)
    (revision : Nat)

structure Actor (F : Type) where
  config : FlowConfig
  peers : List ActorPeer
  devices : JoinedDevices
  ledger : IncomingLedger F
  outgoing : Option Outgoing
  revision : Nat
  /-- False once the pointer thread has gone. -/
  crossingsOpen : Bool
  stopped : Bool
  tasks : List (SenderTask F)
  outputs : List (Output F)

inductive Notification where
  | handoffCancel (transferId : UInt64)
  | handoffResult (result : HandoffResult)
  /-- Malformed, or of another kind. -/
  | other

inductive ActorEvent (F : Type) where
  | link (peer : PublicKey) (state : LinkState)
  /-- A request of a peer; `none` is malformed or of another kind. -/
  | request (peer : PublicKey) (request : Option (HandoffRequest F)) (now : Nat)
  | notification (peer : PublicKey) (notification : Notification)
  | sent (transferId : UInt64)
  | inventory (records : List InventoryDevice) (now : Nat)
  | expire (now : Nat)
  /-- A crossing, the peers whose session holds a connection, and the id a transfer would get. -/
  | crossed (crossing : EdgeCrossing F) (connections : List PublicKey) (transferId : UInt64)
  | pointerGone
  | stop

def edgeSide : FlowEdge → EdgeSide
  | .left => .left
  | .right => .right
  | .top => .top
  | .bottom => .bottom

/-- The receiver is entered through the side opposite the one the cursor left by. -/
def entryPoint (crossing : EdgeCrossing F) : EntryPoint F :=
  let side :=
    match crossing.side with
    | .left => Side.right
    | .right => .left
    | .top => .bottom
    | .bottom => .top
  ⟨.known side, crossing.t, some ⟨crossing.velocity.x, crossing.velocity.y⟩⟩

namespace Actor

def emit (a : Actor F) (output : Output F) : Actor F := { a with outputs := output :: a.outputs }

/-- Publish the whole device state under a new revision. -/
def publishState (a : Actor F) : Actor F :=
  let revision := a.revision + 1
  let announced := a.devices.listed.map fun device => (device.identity, device.config.selfSlot, device.online)
  ({ a with revision := revision } : Actor F).emit (.state a.config.enabled announced a.devices.held revision)

def publishStatus (a : Actor F) : Actor F :=
  a.emit (.status a.config.enabled (a.peers.map fun peer => (peer.name, peer.link)))

/-- Arm the edges whose peer is connected. -/
def armPointer (a : Actor F) : Actor F :=
  let sides := (a.config.layout.filter fun layout =>
    a.peers.any fun peer => peer.name = layout.peer && peer.link = .connected).map fun layout => edgeSide layout.edge
  a.emit (.configure (.fromSides sides) a.config.requireModifier)

def start (config : FlowConfig) (peers : List (PublicKey × String)) (inventory : List InventoryDevice)
    (revision : Nat) : Actor F :=
  let a : Actor F := ⟨config, peers.map fun peer => ⟨peer.1, peer.2, .lost⟩, .join config inventory, .empty, none,
    revision, true, false, [], []⟩
  a.publishState.publishStatus.armPointer

/-- The first peer of this key gets the link; `none` when that changes nothing. -/
def setLink (key : PublicKey) (state : LinkState) : List ActorPeer → Option (List ActorPeer)
  | [] => none
  | peer :: rest =>
    if peer.key = key then if peer.link = state then none else some ({ peer with link := state } :: rest)
    else (setLink key state rest).map (peer :: ·)

def linkChanged (a : Actor F) (key : PublicKey) (state : LinkState) : Actor F :=
  match setLink key state a.peers with
  | none => a
  | some peers => ({ a with peers := peers } : Actor F).publishStatus.armPointer

/-- Start handing the devices to the peer beyond the crossed edge. -/
def crossed (a : Actor F) (crossing : EdgeCrossing F) (connections : List PublicKey) (transferId : UInt64) : Actor F :=
  -- one transfer runs at a time, in either direction
  if a.outgoing.isSome || a.ledger.deadline.isSome then a
  else
    let peer := (a.config.layout.find? fun layout => edgeSide layout.edge = crossing.side).bind fun layout =>
      a.peers.find? fun peer => peer.name = layout.peer
    match peer with
    | none => a
    | some peer =>
      if peer.link = .connected && peer.key ∈ connections then
        let devices := a.devices.outgoing peer.name
        if devices.isEmpty then a
        else
          { a with
            outgoing := some ⟨peer.key, transferId, true⟩
            tasks := ⟨peer.key, transferId, devices, entryPoint crossing⟩ :: a.tasks }
      else a

/-- The transfer's task has ended. -/
def sent (a : Actor F) (transferId : UInt64) : Actor F :=
  if a.outgoing.any fun outgoing => outgoing.transferId = transferId then { a with outgoing := none } else a

section
variable [F64 F]

def handoffRequest (a : Actor F) (peer : PublicKey) (request : HandoffRequest F) (now : Nat) : Actor F :=
  let (decision, ledger) := a.ledger.arm peer request a.devices.locals a.config.enabled now
  let a := { a with ledger := ledger }
  match decision with
  | .replay _ result => (a.emit (.result peer result)).emit (.respond peer decision)
  | _ => a.emit (.respond peer decision)

def notified (a : Actor F) (peer : PublicKey) : Notification → Actor F
  | .handoffCancel transferId => { a with ledger := (a.ledger.cancel peer transferId).2 }
  | .handoffResult result =>
    match a.outgoing.filter fun outgoing => outgoing.peer = peer && outgoing.transferId = result.transferId with
    | some outgoing =>
      let a := { a with outgoing := some { outgoing with result := false } }
      if outgoing.result then a.emit (.deliver result.transferId result) else a
    | none => a
  | .other => a

/-- Tell the peer how a transfer went. -/
def finish (a : Actor F) (done : Option Handoff.CompletedTransfer) : Actor F :=
  match done with
  | some done => a.emit (.result done.peer done.result)
  | none => a

def inventoryChanged (a : Actor F) (records : List InventoryDevice) (now : Nat) : Actor F :=
  let devices := JoinedDevices.join a.config records
  let (observation, ledger) := a.ledger.observe devices.locals now
  let a := { a with devices := devices, ledger := ledger }
  let a :=
    match observation.entry with
    | some entry => a.emit (.place entry)
    | none => a
  (a.finish observation.completed).publishState

def expire (a : Actor F) (now : Nat) : Actor F :=
  let (done, ledger) := a.ledger.expire now
  { a with ledger := ledger }.finish done

def step (a : Actor F) (event : ActorEvent F) : Option (Actor F) :=
  if a.stopped then none
  else
    match event with
    | .link peer state => some (a.linkChanged peer state)
    | .request peer (some request) now => some (a.handoffRequest peer request now)
    | .request peer none _ => some (a.emit (.refuse peer))
    | .notification peer notification => some (a.notified peer notification)
    | .sent transferId =>
      if a.tasks.any fun task => task.transferId = transferId then
        some { a.sent transferId with tasks := a.tasks.eraseP fun task => task.transferId = transferId }
      else none
    | .inventory records now => some (a.inventoryChanged records now)
    | .expire now => some (a.expire now)
    | .crossed crossing connections transferId =>
      if a.crossingsOpen then some (a.crossed crossing connections transferId) else none
    | .pointerGone => some { a with crossingsOpen := false }
    | .stop => some { a with stopped := true }

end

/-- The transfers in progress: those a task is sending, and the one that is watched for. -/
def inProgress (a : Actor F) : List Handoff.Transfer :=
  (a.tasks.map fun task => (task.peer, task.transferId)) ++ a.ledger.pending.toList.map Handoff.PendingIncoming.transfer

/-- One transfer at a time, in either direction. -/
def OneTransfer (a : Actor F) : Prop := a.inProgress.length ≤ 1

instance (a : Actor F) : Decidable a.OneTransfer := inferInstanceAs (Decidable (_ ≤ 1))

/-- Whether the ledger would arm a request: nothing stands against it there. -/
def armable [F64 F] (a : Actor F) (peer : PublicKey) (request : HandoffRequest F) : Bool :=
  a.config.enabled && request.wellFormed && a.ledger.pending.isNone &&
    (a.ledger.completed (peer, request.transferId)).isNone &&
    match matchDevices a.devices.locals [] request.devices with
    | .ok _ => true
    | .error _ => false

/-- No request that could be armed comes while this host sends. -/
def Apart [F64 F] (a : Actor F) : ActorEvent F → Prop
  | .request peer (some request) _ => a.stopped = false → a.outgoing.isSome = true → a.armable peer request = false
  | _ => True

instance decidableApart [F64 F] (a : Actor F) : ∀ event, Decidable (a.Apart event)
  | .request _ (some _) _ => inferInstanceAs (Decidable (_ → _ → _))
  | .request _ none _ | .link _ _ | .notification _ _ | .sent _ | .inventory _ _ | .expire _ | .crossed _ _ _
  | .pointerGone | .stop => isTrue trivial

/-! ## One event -/

/-- Two actors with the same transfers. -/
structure Same (a a' : Actor F) : Prop where
  tasks : a'.tasks = a.tasks
  outgoing : a'.outgoing.toList.map (fun o => (o.peer, o.transferId)) =
    a.outgoing.toList.map fun o => (o.peer, o.transferId)
  pending : a'.ledger.pending.toList.length ≤ a.ledger.pending.toList.length

theorem same_linkChanged (a : Actor F) (key : PublicKey) (state : LinkState) : Same a (a.linkChanged key state) := by
  unfold linkChanged
  split <;> exact ⟨rfl, rfl, le_rfl⟩

theorem length_pending_le {l l' : IncomingLedger F} (h : l.pending = none → l'.pending = none) :
    l'.pending.toList.length ≤ l.pending.toList.length := by
  cases hp : l.pending with
  | none => rw [h hp]
  | some pending =>
    cases l'.pending with
    | none => exact Nat.zero_le 1
    | some pending' => exact le_rfl

theorem same_notified (a : Actor F) (peer : PublicKey) (notification : Notification) :
    Same a (a.notified peer notification) := by
  cases notification with
  | handoffCancel transferId =>
    refine ⟨rfl, rfl, length_pending_le fun hnone => ?_⟩
    rcases a.ledger.cancel_cases peer transferId with ⟨pending, hp, -⟩ | ⟨-, hsame⟩
    · rw [hnone] at hp
      cases hp
    · rw [notified, hsame, hnone]
  | handoffResult result =>
    simp only [notified]
    split
    · rename_i outgoing hf
      obtain ⟨ho, -⟩ := Option.filter_eq_some_iff.1 hf
      have hsame : Same a { a with outgoing := some { outgoing with result := false } } := by
        refine ⟨rfl, ?_, le_rfl⟩
        rw [ho]
        rfl
      split
      · exact ⟨hsame.tasks, hsame.outgoing, hsame.pending⟩
      · exact hsame
    · exact ⟨rfl, rfl, le_rfl⟩
  | other => exact ⟨rfl, rfl, le_rfl⟩

theorem same_inventoryChanged (a : Actor F) (records : List InventoryDevice) (now : Nat) :
    Same a (a.inventoryChanged records now) := by
  have hpending : (a.ledger.observe (JoinedDevices.join a.config records).locals now).2.pending.toList.length ≤
      a.ledger.pending.toList.length :=
    length_pending_le fun hnone => by rw [IncomingLedger.observe_none hnone, hnone]
  unfold inventoryChanged
  dsimp only
  split
  · cases (a.ledger.observe (JoinedDevices.join a.config records).locals now).1.completed <;>
      exact ⟨rfl, rfl, hpending⟩
  · cases (a.ledger.observe (JoinedDevices.join a.config records).locals now).1.completed <;>
      exact ⟨rfl, rfl, hpending⟩

theorem same_expire (a : Actor F) (now : Nat) : Same a (a.expire now) := by
  have hpending : (a.ledger.expire now).2.pending.toList.length ≤ a.ledger.pending.toList.length :=
    length_pending_le fun hnone => by rw [IncomingLedger.expire_none hnone, hnone]
  unfold expire
  dsimp only
  cases (a.ledger.expire now).1 <;> exact ⟨rfl, rfl, hpending⟩

/-- The tasks that run are those of the outgoing transfer. -/
def Sending (a : Actor F) : Prop :=
  (a.tasks.map fun task => (task.peer, task.transferId)) = a.outgoing.toList.map fun o => (o.peer, o.transferId)

theorem Same.sending {a a' : Actor F} (h : Same a a') (hs : a.Sending) : a'.Sending := by
  rw [Sending, h.tasks, h.outgoing]
  exact hs

theorem Same.one {a a' : Actor F} (h : Same a a') (ho : a.OneTransfer) : a'.OneTransfer := by
  simp only [OneTransfer, inProgress, List.length_append, List.length_map] at ho ⊢
  rw [h.tasks]
  have hp := h.pending
  omega

theorem crossed_one (a : Actor F) (crossing : EdgeCrossing F) (connections : List PublicKey) (transferId : UInt64)
    (hs : a.Sending) (ho : a.OneTransfer) :
    (a.crossed crossing connections transferId).Sending ∧ (a.crossed crossing connections transferId).OneTransfer := by
  unfold crossed
  split
  · exact ⟨hs, ho⟩
  · rename_i hfree
    simp only [Bool.or_eq_true, not_or, Bool.not_eq_true, Option.isSome_eq_false_iff, Option.isNone_iff_eq_none,
      IncomingLedger.deadline, Option.map_eq_none_iff] at hfree
    obtain ⟨hout, hpending⟩ := hfree
    dsimp only
    split
    · exact ⟨hs, ho⟩
    · split
      · split
        · exact ⟨hs, ho⟩
        · -- nothing runs and nothing is watched for
          have htasks : a.tasks = [] := by
            rw [Sending, hout] at hs
            exact List.map_eq_nil_iff.1 hs
          refine ⟨?_, ?_⟩
          · rw [Sending, htasks]
            rfl
          · simp [OneTransfer, inProgress, htasks, hpending]
      · exact ⟨hs, ho⟩

theorem sent_one (a : Actor F) (transferId : UInt64)
    (ht : (a.tasks.any fun task => task.transferId = transferId) = true) (hs : a.Sending) (ho : a.OneTransfer) :
    let a' := { a.sent transferId with tasks := a.tasks.eraseP fun task => task.transferId = transferId }
    a'.Sending ∧ a'.OneTransfer := by
  obtain ⟨task, hm, hid⟩ := List.any_eq_true.1 ht
  have hid : task.transferId = transferId := of_decide_eq_true hid
  rw [Sending] at hs
  cases hout : a.outgoing with
  | none =>
    rw [hout] at hs
    rw [List.map_eq_nil_iff.1 hs] at hm
    cases hm
  | some outgoing =>
    rw [hout] at hs
    -- the one task that runs is the one that ended
    obtain ⟨only, htasks, heq⟩ := List.map_eq_singleton_iff.1 hs
    rw [htasks] at hm
    obtain rfl := List.mem_singleton.1 hm
    have hout' : (a.sent transferId).outgoing = none := by
      have hmine : outgoing.transferId = transferId := (congrArg Prod.snd heq).symm.trans hid
      simp [sent, hout, hmine]
    have hledger : (a.sent transferId).ledger = a.ledger := by
      unfold sent
      split <;> rfl
    have herase : (a.tasks.eraseP fun task => task.transferId = transferId) = [] := by
      rw [htasks, List.eraseP_cons_of_pos (by simpa using hid)]
    refine ⟨?_, ?_⟩
    · simp [Sending, hout', herase]
    · simp only [OneTransfer, inProgress, herase, hledger, List.length_append, List.length_map] at ho ⊢
      simp only [List.length_nil]
      omega

section
variable [F64 F]

/-- A request that can be armed is. -/
theorem armed_of_armable {a : Actor F} {peer : PublicKey} {request : HandoffRequest F}
    (h : a.armable peer request = true) (now : Nat) :
    ∃ accept, (a.ledger.arm peer request a.devices.locals a.config.enabled now).1 = .armed accept := by
  simp only [armable, Bool.and_eq_true, Option.isNone_iff_eq_none] at h
  obtain ⟨⟨⟨⟨henabled, hwell⟩, hpending⟩, hnew⟩, hmatch⟩ := h
  obtain ⟨entry, harm⟩ := a.ledger.arm_wellFormed peer a.devices.locals now hwell
  rw [henabled, harm, hnew, hpending]
  dsimp only
  split at hmatch
  · rename_i found hfound
    rw [hfound]
    exact ⟨_, rfl⟩
  · cases hmatch

theorem handoffRequest_fields (a : Actor F) (peer : PublicKey) (request : HandoffRequest F) (now : Nat) :
    (a.handoffRequest peer request now).tasks = a.tasks ∧ (a.handoffRequest peer request now).outgoing = a.outgoing ∧
      (a.handoffRequest peer request now).ledger =
        (a.ledger.arm peer request a.devices.locals a.config.enabled now).2 := by
  unfold handoffRequest
  dsimp only
  split <;> exact ⟨rfl, rfl, rfl⟩

/-- **A request makes a second transfer exactly when it can be armed while this host sends.** -/
theorem request_one (a : Actor F) (peer : PublicKey) (request : HandoffRequest F) (now : Nat) (hs : a.Sending)
    (ho : a.OneTransfer) :
    (a.handoffRequest peer request now).Sending ∧ ((a.handoffRequest peer request now).OneTransfer ↔
      (a.outgoing.isSome = true → a.armable peer request = false)) := by
  obtain ⟨htasks, hout, hledger⟩ := a.handoffRequest_fields peer request now
  refine ⟨by rw [Sending, htasks, hout]; exact hs, ?_⟩
  have hlen : a.tasks.length = a.outgoing.toList.length := by
    simpa using congrArg List.length hs
  simp only [OneTransfer, inProgress, htasks, hledger, List.length_append, List.length_map, hlen] at ho ⊢
  rcases a.ledger.arm_cases peer request a.devices.locals a.config.enabled now with
    ⟨entry, found, henabled, hwell, hpending, hnew, hfound, heq⟩ | ⟨hnot, hsame⟩
  · have harmable : a.armable peer request = true := by
      simp only [armable, henabled, hwell, hpending, hnew, hfound]
      rfl
    rw [heq, harmable]
    cases a.outgoing with
    | none => simp
    | some outgoing => simp
  · rw [hsame]
    refine ⟨fun _ _ => ?_, fun _ => ho⟩
    cases harmable : a.armable peer request with
    | false => rfl
    | true =>
      obtain ⟨accept, harmed⟩ := armed_of_armable harmable now
      exact absurd harmed (hnot accept)

/-- **An event breaks the rule exactly when it is an armable request while this host sends.** -/
theorem step_one {a a' : Actor F} {event : ActorEvent F} (hs : a.Sending) (ho : a.OneTransfer)
    (h : a.step event = some a') : a'.Sending ∧ (a'.OneTransfer ↔ a.Apart event) := by
  have hsame : a.Apart event → Same a a' → a'.Sending ∧ (a'.OneTransfer ↔ a.Apart event) := fun hapart hk =>
    ⟨hk.sending hs, fun _ => hapart, fun _ => hk.one ho⟩
  unfold step at h
  split at h
  · cases h
  · rename_i hgoes
    have hgoes : a.stopped = false := by simpa using hgoes
    cases event with
    | link peer state =>
      cases h
      exact hsame trivial (a.same_linkChanged peer state)
    | request peer request now =>
      cases request with
      | none =>
        cases h
        exact hsame trivial ⟨rfl, rfl, le_rfl⟩
      | some request =>
        cases h
        obtain ⟨hsend, hiff⟩ := a.request_one peer request now hs ho
        exact ⟨hsend, hiff.trans ⟨fun h _ => h, fun h => h hgoes⟩⟩
    | notification peer notification =>
      cases h
      exact hsame trivial (a.same_notified peer notification)
    | sent transferId =>
      dsimp only at h
      split at h
      · rename_i ht
        cases h
        obtain ⟨hsend, hone⟩ := a.sent_one transferId ht hs ho
        exact ⟨hsend, fun _ => trivial, fun _ => hone⟩
      · cases h
    | inventory records now =>
      cases h
      exact hsame trivial (a.same_inventoryChanged records now)
    | expire now =>
      cases h
      exact hsame trivial (a.same_expire now)
    | crossed crossing connections transferId =>
      dsimp only at h
      split at h
      · cases h
        obtain ⟨hsend, hone⟩ := a.crossed_one crossing connections transferId hs ho
        exact ⟨hsend, fun _ => trivial, fun _ => hone⟩
      · cases h
    | pointerGone =>
      cases h
      exact hsame trivial ⟨rfl, rfl, le_rfl⟩
    | stop =>
      cases h
      exact hsame trivial ⟨rfl, rfl, le_rfl⟩

/-! ## Every run -/

/-- **One transfer runs at a time exactly when no request that could be armed comes while this host sends.** -/
theorem one_transfer_iff (config : FlowConfig) (peers : List (PublicKey × String)) (inventory : List InventoryDevice)
    (revision : Nat) (events : List (ActorEvent F)) :
    EveryState step OneTransfer (start config peers inventory revision) events ↔
      Along step Apart (start config peers inventory revision) events := by
  refine everyState_iff_along_of_inv Sending OneTransfer Apart (fun _ _ _ hs ho h => step_one hs ho h)
    (fun a event h => ?_) events _ rfl (Nat.zero_le 1)
  -- a request is refused only once the actor has stopped
  cases event with
  | request peer request now =>
    cases request with
    | none => trivial
    | some request =>
      intro hgoes
      rw [step, hgoes] at h
      cases h
  | _ => trivial

end

end Actor

/-! ## Both computers cross at once -/

attribute [local instance] Scroll.plainRationals

def sampleDevice (last : UInt8) (key : String) (online : Bool) : InventoryDevice :=
  ⟨⟨key⟩, some (.bolt "cafe" last), none, ⟨[0, 0, 0, last], rfl⟩, .mouse, online⟩

/-- Two mice, one here and one at the desk, to the right. -/
def sampleConfig : FlowConfig :=
  ⟨true, false, [⟨.right, "desk"⟩], [⟨⟨"unit:0000000a"⟩, 0, [("desk", 1)]⟩, ⟨⟨"unit:0000000b"⟩, 0, [("desk", 1)]⟩]⟩

def sampleActor : Actor ℚ :=
  .start sampleConfig [(sampleKey 1, "desk")]
    [sampleDevice 10 "unit:0000000a" true, sampleDevice 11 "unit:0000000b" false] 0

/-- The first mouse starts for the desk, and the desk hands over the second before that transfer has ended. -/
def sampleCrossed : List (ActorEvent ℚ) :=
  [.link (sampleKey 1) .connected, .crossed ⟨.right, 1 / 2, ⟨100, 0⟩⟩ [sampleKey 1] 5,
    .request (sampleKey 1) (some ⟨9, [⟨[⟨.known .unitId, [0, 0, 0, 11]⟩], "unit:0000000b"⟩],
      some ⟨.known .left, 0, none⟩⟩) 0]

theorem two_transfers : ¬ EveryState Actor.step Actor.OneTransfer sampleActor sampleCrossed ∧
    (run Actor.step sampleActor sampleCrossed).map Actor.inProgress = some [(sampleKey 1, 5), (sampleKey 1, 9)] := by
  decide +kernel

end Flow
end OpenLogi
