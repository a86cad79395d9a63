import OpenLogi.Flow.Devices
import OpenLogi.Lib.Memory
import OpenLogi.Scroll.Number
/-!
# Handoff — the receiver's record of incoming transfers

`IncomingLedger` arms at most one transfer, watches for its devices, and remembers the finished ones for requests that
come again.  Nothing here reads the clock: an instant or a duration is a number of nanoseconds.
-/
namespace OpenLogi
namespace Flow
namespace Handoff

open OpenLogi.Core (PhysicalDeviceKey)
open OpenLogi.Scroll (F64)

variable {F : Type}

/-- How long a receiver watches for arrival after accepting. -/
def armTimeout : Nat := 3000 * millis

/-- How many finished transfers are remembered for retransmissions. -/
def completedLimit : Nat := 64

/-! ## Messages -/

inductive Side where
  | unspecified
  | left
  | right
  | top
  | bottom
  deriving DecidableEq

structure Vec2 (F : Type) where
  x : F
  y : F
  deriving DecidableEq

/-- Where the cursor enters the receiver. -/
structure EntryPoint (F : Type) where
  side : EnumValue Side
  t : F
  velocity : Option (Vec2 F)
  deriving DecidableEq

structure HandoffRequest (F : Type) where
  transferId : UInt64
  devices : List DeviceIdentity
  entry : Option (EntryPoint F)
  deriving DecidableEq

structure HandoffAccept where
  transferId : UInt64
  armTimeoutMs : UInt32
  deriving DecidableEq

inductive HandoffRejectReason where
  | unspecified
  | disabled
  | unknownDevice
  | alreadyPending
  | notReady
  deriving DecidableEq

structure HandoffReject where
  transferId : UInt64
  reason : EnumValue HandoffRejectReason
  detail : String
  deriving DecidableEq

inductive HandoffOutcome where
  | unspecified
  | arrived
  | partialArrival
  | timeout
  | cancelled
  deriving DecidableEq

structure DeviceArrival where
  device : DeviceIdentity
  arrived : Bool
  elapsedMs : UInt32
  deriving DecidableEq

structure HandoffResult where
  transferId : UInt64
  outcome : HandoffOutcome
  arrivals : List DeviceArrival
  deriving DecidableEq

/-- Whole milliseconds, as far as `u32` goes. -/
def toMillis (duration : Nat) : UInt32 := UInt32.ofNat (min (duration / millis) 0xFFFFFFFF)

def accept (transferId : UInt64) (window : Nat) : HandoffAccept := ⟨transferId, toMillis window⟩

def reject (transferId : UInt64) (reason : HandoffRejectReason) (detail : String) : HandoffReject :=
  ⟨transferId, .known reason, detail⟩

/-- The entry point of a request, when it names a side and a place along it. -/
def validEntry [F64 F] (request : HandoffRequest F) : Option (EntryPoint F) :=
  request.entry.filter fun entry =>
    (match entry.side with
      | .known side => side ≠ .unspecified
      | .unknown _ => false) &&
    F64.isFinite entry.t && F64.le (F64.lit 0) entry.t && F64.le entry.t (F64.lit 1)

/-- Whether a request is one a ledger looks at. -/
def HandoffRequest.wellFormed [F64 F] (request : HandoffRequest F) : Bool :=
  (validEntry request).isSome && request.transferId ≠ 0 && !request.devices.isEmpty

/-! ## The ledger -/

structure PendingDevice where
  key : PhysicalDeviceKey
  identity : DeviceIdentity
  arrivedAfter : Option Nat
  deriving DecidableEq

structure PendingIncoming (F : Type) where
  peer : PublicKey
  transferId : UInt64
  entry : EntryPoint F
  devices : List PendingDevice
  acceptedAt : Nat
  deadline : Nat
  entryPlaced : Bool
  deriving DecidableEq

structure CompletedIncoming where
  accept : HandoffAccept
  result : HandoffResult
  deriving DecidableEq

/-- A transfer: the peer that sends it, and the id that peer gave it. -/
abbrev Transfer := PublicKey × UInt64

/-- How to answer one request. -/
inductive ArmDecision where
  | armed (accept : HandoffAccept)
  | duplicate (accept : HandoffAccept)
  | replay (accept : HandoffAccept) (result : HandoffResult)
  | rejected (reject : HandoffReject)
  deriving DecidableEq

structure CompletedTransfer where
  peer : PublicKey
  result : HandoffResult
  deriving DecidableEq

/-- What one inventory view changed. -/
structure Observation (F : Type) where
  entry : Option (EntryPoint F)
  completed : Option CompletedTransfer
  deriving DecidableEq

inductive CancelOutcome where
  | disarmed
  | ignored
  | unknown
  deriving DecidableEq

structure IncomingLedger (F : Type) where
  pending : Option (PendingIncoming F)
  completed : Transfer → Option CompletedIncoming
  completionOrder : List Transfer

def PendingIncoming.transfer (pending : PendingIncoming F) : Transfer := (pending.peer, pending.transferId)

/-- The requested device here: its key and identity, or why the request is refused. -/
def matchDevice (devices : LocalDevices) (requested : DeviceIdentity) :
    Except (HandoffRejectReason × String) (PhysicalDeviceKey × DeviceIdentity) :=
  match devices.find requested with
  | some device =>
    if device.isOnline then .error (.notReady, "a requested device is already connected here")
    else .ok (device.key, device.identity)
  | none =>
    match devices.findUnlisted requested with
    | some key => .ok (key, requested)
    | none => .error (.unknownDevice, "a requested device is not configured here")

/-- The devices of a request, none of which has arrived. -/
def matchDevices (devices : LocalDevices) : List PendingDevice → List DeviceIdentity →
    Except (HandoffRejectReason × String) (List PendingDevice)
  | found, [] => .ok found
  | found, requested :: rest =>
    match matchDevice devices requested with
    | .error e => .error e
    | .ok (key, identity) =>
      if found.any fun device => device.key = key then
        .error (.unknownDevice, "the request names one device twice")
      else matchDevices devices (found ++ [⟨key, identity, none⟩]) rest

/-- What an inventory view says of one expected device, and whether it places the cursor. -/
def look (devices : LocalDevices) (elapsed : Nat) (entry : EntryPoint F) (placed : Bool × Option (EntryPoint F))
    (expected : PendingDevice) : PendingDevice × Bool × Option (EntryPoint F) :=
  if expected.arrivedAfter.isSome then (expected, placed)
  else
    match devices.arrived expected.key with
    | none => (expected, placed)
    | some arrived =>
      -- the kind of a device armed before the inventory listed it is known only now
      ({ expected with arrivedAfter := some elapsed },
        if arrived.isPointing && !placed.1 then (true, some entry) else placed)

def lookAll (devices : LocalDevices) (elapsed : Nat) (entry : EntryPoint F) :
    Bool × Option (EntryPoint F) → List PendingDevice → List PendingDevice × Bool × Option (EntryPoint F)
  | placed, [] => ([], placed)
  | placed, expected :: rest =>
    let (expected, placed) := look devices elapsed entry placed expected
    let (rest, placed) := lookAll devices elapsed entry placed rest
    (expected :: rest, placed)

def PendingIncoming.allArrived (pending : PendingIncoming F) : Bool :=
  pending.devices.all fun device => device.arrivedAfter.isSome

def PendingIncoming.anyArrived (pending : PendingIncoming F) : Bool :=
  pending.devices.any fun device => device.arrivedAfter.isSome

def PendingDevice.arrival (device : PendingDevice) : DeviceArrival :=
  ⟨device.identity, device.arrivedAfter.isSome, device.arrivedAfter.elim 0 toMillis⟩

def PendingIncoming.result (pending : PendingIncoming F) (outcome : HandoffOutcome) : HandoffResult :=
  ⟨pending.transferId, outcome, pending.devices.map PendingDevice.arrival⟩

namespace IncomingLedger

def empty : IncomingLedger F := ⟨none, fun _ => none, []⟩

/-- Close `pending`, taken from the ledger, and remember its result. -/
def record (l : IncomingLedger F) (pending : PendingIncoming F) (outcome : HandoffOutcome) :
    CompletedTransfer × IncomingLedger F :=
  let result := pending.result outcome
  let key := (pending.peer, pending.transferId)
  let completed := Function.update l.completed key (some ⟨accept pending.transferId 0, result⟩)
  let completionOrder := l.completionOrder ++ [key]
  (⟨pending.peer, result⟩,
    match completionOrder with
    | oldest :: rest =>
      if completedLimit < completionOrder.length then ⟨l.pending, Function.update completed oldest none, rest⟩
      else ⟨l.pending, completed, completionOrder⟩
    | [] => ⟨l.pending, completed, completionOrder⟩)

/-- Finish the armed transfer. -/
def finish (l : IncomingLedger F) (pending : PendingIncoming F) (outcome : HandoffOutcome) :
    CompletedTransfer × IncomingLedger F :=
  record { l with pending := none } pending outcome

/-- How to answer a request decided at `now`, which starts the window of a transfer it arms. -/
def arm [F64 F] (l : IncomingLedger F) (peer : PublicKey) (request : HandoffRequest F) (devices : LocalDevices)
    (enabled : Bool) (now : Nat) : ArmDecision × IncomingLedger F :=
  let transferId := request.transferId
  if !enabled then (.rejected (reject transferId .disabled "Flow is disabled"), l)
  else
    match (validEntry request).filter fun _ => transferId ≠ 0 && !request.devices.isEmpty with
    | none => (.rejected (reject transferId .notReady "invalid handoff request"), l)
    | some entry =>
      match l.completed (peer, transferId) with
      | some done => (.replay done.accept done.result, l)
      | none =>
        match l.pending with
        | some pending =>
          if pending.peer = peer ∧ pending.transferId = transferId then
            (.duplicate (accept transferId (pending.deadline - now)), l)
          else (.rejected (reject transferId .alreadyPending "another transfer is already armed"), l)
        | none =>
          match matchDevices devices [] request.devices with
          | .error (reason, detail) => (.rejected (reject transferId reason detail), l)
          | .ok found =>
            (.armed (accept transferId armTimeout),
              { l with pending := some ⟨peer, transferId, entry, found, now, now + armTimeout, false⟩ })

/-- When the armed transfer expires. -/
def deadline (l : IncomingLedger F) : Option Nat := l.pending.map PendingIncoming.deadline

/-- Record the devices that are online in a new inventory view. -/
def observe (l : IncomingLedger F) (devices : LocalDevices) (now : Nat) : Observation F × IncomingLedger F :=
  match l.pending with
  | none => (⟨none, none⟩, l)
  | some pending =>
    let (found, entryPlaced, entry) :=
      lookAll devices (now - pending.acceptedAt) pending.entry (pending.entryPlaced, none) pending.devices
    let pending := { pending with devices := found, entryPlaced }
    if pending.allArrived then
      let (done, l) := l.finish pending .arrived
      (⟨entry, some done⟩, l)
    else (⟨entry, none⟩, { l with pending := some pending })

/-- Finish the armed transfer when its window has closed. -/
def expire (l : IncomingLedger F) (now : Nat) : Option CompletedTransfer × IncomingLedger F :=
  match l.pending with
  | none => (none, l)
  | some pending =>
    if now < pending.deadline then (none, l)
    else
      let (done, l) := l.finish pending (if pending.anyArrived then .partialArrival else .timeout)
      (some done, l)

def cancel (l : IncomingLedger F) (peer : PublicKey) (transferId : UInt64) : CancelOutcome × IncomingLedger F :=
  match l.pending.filter fun pending => pending.peer = peer && pending.transferId = transferId with
  | none => (.unknown, l)
  | some pending =>
    if pending.anyArrived then (.ignored, l) else (.disarmed, (l.finish pending .cancelled).2)

/-! ## What each operation does -/

/-- The remembered transfers, as a bounded memory. -/
def memory (l : IncomingLedger F) : Lib.Memory Transfer CompletedIncoming := ⟨l.completed, l.completionOrder⟩

@[simp] theorem finish_pending (l : IncomingLedger F) (pending : PendingIncoming F) (outcome : HandoffOutcome) :
    (l.finish pending outcome).2.pending = none := by
  simp only [finish, record]
  split
  · split <;> rfl
  · rfl

/-- **Finishing a transfer remembers its result**, under its peer and id. -/
theorem finish_memory (l : IncomingLedger F) (pending : PendingIncoming F) (outcome : HandoffOutcome) :
    (l.finish pending outcome).2.memory = l.memory.remember completedLimit pending.transfer
      ⟨accept pending.transferId 0, pending.result outcome⟩ := by
  obtain ⟨oldest, rest, horder⟩ := List.exists_cons_of_ne_nil
    (List.concat_ne_nil (pending.peer, pending.transferId) l.completionOrder)
  have hmemory : l.memory.order ++ [pending.transfer] = oldest :: rest := horder
  rw [Lib.Memory.remember_eq _ _ hmemory]
  simp only [memory, finish, record, horder]
  split <;> rfl

end IncomingLedger

/-- An expected device once a view has been looked at. -/
def PendingDevice.seen (devices : LocalDevices) (elapsed : Nat) (expected : PendingDevice) : PendingDevice :=
  if expected.arrivedAfter.isSome then expected
  else if devices.connected expected.key then { expected with arrivedAfter := some elapsed } else expected

theorem look_fst (devices : LocalDevices) (elapsed : Nat) (entry : EntryPoint F)
    (placed : Bool × Option (EntryPoint F)) (expected : PendingDevice) :
    (look devices elapsed entry placed expected).1 = expected.seen devices elapsed := by
  unfold look PendingDevice.seen LocalDevices.connected
  split
  · rfl
  · split
    · rename_i h
      simp [h]
    · rename_i h
      simp [h]

theorem lookAll_fst (devices : LocalDevices) (elapsed : Nat) (entry : EntryPoint F) :
    ∀ (expected : List PendingDevice) (placed : Bool × Option (EntryPoint F)),
      (lookAll devices elapsed entry placed expected).1 = expected.map (PendingDevice.seen devices elapsed)
  | [], _ => rfl
  | e :: expected, placed => by
    rw [lookAll, List.map_cons, ← lookAll_fst devices elapsed entry expected, ← look_fst devices elapsed entry placed e]

namespace PendingIncoming

/-- The transfer once an inventory view has been looked at. -/
def observed (pending : PendingIncoming F) (devices : LocalDevices) (now : Nat) : PendingIncoming F :=
  let found := lookAll devices (now - pending.acceptedAt) pending.entry (pending.entryPlaced, none) pending.devices
  { pending with devices := found.1, entryPlaced := found.2.1 }

/-- Which devices are expected, and whether each has arrived. -/
def statuses (pending : PendingIncoming F) : List (PhysicalDeviceKey × Bool) :=
  pending.devices.map fun device => (device.key, device.arrivedAfter.isSome)

theorem allArrived_eq (pending : PendingIncoming F) : pending.allArrived = pending.statuses.all Prod.snd := by
  simp only [allArrived, statuses, List.all_map]
  rfl

theorem anyArrived_eq (pending : PendingIncoming F) : pending.anyArrived = pending.statuses.any Prod.snd := by
  simp only [anyArrived, statuses, List.any_map]
  rfl

/-- **A view marks as arrived what it shows online**, and forgets no arrival. -/
theorem observed_statuses (pending : PendingIncoming F) (devices : LocalDevices) (now : Nat) :
    (pending.observed devices now).statuses =
      pending.statuses.map fun status => (status.1, status.2 || devices.connected status.1) := by
  simp only [statuses, observed, lookAll_fst, List.map_map]
  refine List.map_congr_left fun device _ => ?_
  simp only [Function.comp_apply, PendingDevice.seen]
  by_cases ha : device.arrivedAfter.isSome = true
  · simp [ha]
  · by_cases hc : devices.connected device.key = true
    · simp [ha, hc]
    · simp [ha, hc]

end PendingIncoming

/-- Matching keeps what was found, adds one device for each that is left, and none of them has arrived. -/
theorem matchDevices_ok {devices : LocalDevices} : ∀ {requested : List DeviceIdentity}
    {found matched : List PendingDevice}, matchDevices devices found requested = .ok matched →
      ∃ new, matched = found ++ new ∧ new.length = requested.length ∧ ∀ device ∈ new, device.arrivedAfter = none
  | [], found, matched, h => by
    cases h
    exact ⟨[], by simp, rfl, fun _ h => (by cases h)⟩
  | requested :: rest, found, matched, h => by
    rw [matchDevices] at h
    split at h
    · cases h
    · rename_i key identity hone
      split at h
      · cases h
      · obtain ⟨new, rfl, hlen, hnone⟩ := matchDevices_ok h
        refine ⟨⟨key, identity, none⟩ :: new, by simp, by simp [hlen], fun device hd => ?_⟩
        rcases List.mem_cons.1 hd with rfl | hd
        · rfl
        · exact hnone device hd

namespace IncomingLedger

/-- **A well-formed request is answered from the ledger.** -/
theorem arm_wellFormed [F64 F] (l : IncomingLedger F) (peer : PublicKey) {request : HandoffRequest F}
    (devices : LocalDevices) (now : Nat) (h : request.wellFormed = true) : ∃ entry,
    l.arm peer request devices true now =
      match l.completed (peer, request.transferId) with
      | some done => (.replay done.accept done.result, l)
      | none =>
        match l.pending with
        | some pending =>
          if pending.peer = peer ∧ pending.transferId = request.transferId then
            (.duplicate (accept request.transferId (pending.deadline - now)), l)
          else (.rejected (reject request.transferId .alreadyPending "another transfer is already armed"), l)
        | none =>
          match matchDevices devices [] request.devices with
          | .error (reason, detail) => (.rejected (reject request.transferId reason detail), l)
          | .ok found =>
            (.armed (accept request.transferId armTimeout),
              { l with pending := some ⟨peer, request.transferId, entry, found, now, now + armTimeout, false⟩ }) := by
  simp only [HandoffRequest.wellFormed, Bool.and_eq_true] at h
  obtain ⟨entry, hentry⟩ := Option.isSome_iff_exists.1 h.1.1
  have hchecks : ((validEntry request).filter fun _ => request.transferId ≠ 0 && !request.devices.isEmpty) =
      some entry := by
    rw [hentry, Option.filter_some, h.1.2, h.2]
    rfl
  refine ⟨entry, ?_⟩
  simp only [arm, hchecks]
  rfl

theorem arm_malformed [F64 F] (l : IncomingLedger F) (peer : PublicKey) {request : HandoffRequest F}
    (devices : LocalDevices) {enabled : Bool} (now : Nat) (h : ¬(enabled = true ∧ request.wellFormed = true)) :
    ∃ reason detail,
      l.arm peer request devices enabled now = (.rejected (reject request.transferId reason detail), l) := by
  simp only [arm]
  split
  · exact ⟨_, _, rfl⟩
  · rename_i henabled
    split
    · exact ⟨_, _, rfl⟩
    · rename_i entry hentry
      refine absurd ⟨by simpa using henabled, ?_⟩ h
      obtain ⟨hvalid, hchecks⟩ := Option.filter_eq_some_iff.1 hentry
      simp only [Bool.and_eq_true] at hchecks
      simp only [HandoffRequest.wellFormed, hvalid, Option.isSome_some, Bool.true_and, Bool.and_eq_true]
      exact hchecks

/-- **Arming arms a new transfer or changes nothing.**  A transfer that is armed is neither pending nor remembered. -/
theorem arm_cases [F64 F] (l : IncomingLedger F) (peer : PublicKey) (request : HandoffRequest F)
    (devices : LocalDevices) (enabled : Bool) (now : Nat) :
    (∃ entry found, enabled = true ∧ request.wellFormed = true ∧ l.pending = none ∧
      l.completed (peer, request.transferId) = none ∧ matchDevices devices [] request.devices = .ok found ∧
      l.arm peer request devices enabled now = (.armed (accept request.transferId armTimeout),
        { l with pending := some ⟨peer, request.transferId, entry, found, now, now + armTimeout, false⟩ })) ∨
    ((∀ a, (l.arm peer request devices enabled now).1 ≠ .armed a) ∧
      (l.arm peer request devices enabled now).2 = l) := by
  by_cases h : enabled = true ∧ request.wellFormed = true
  · obtain ⟨rfl, hwell⟩ := h
    obtain ⟨entry, harm⟩ := l.arm_wellFormed peer devices now hwell
    cases hcompleted : l.completed (peer, request.transferId) with
    | some done =>
      simp only [hcompleted] at harm
      exact .inr ⟨fun a ha => (by rw [harm] at ha; cases ha), by rw [harm]⟩
    | none =>
      cases hpending : l.pending with
      | some pending =>
        simp only [hcompleted, hpending] at harm
        refine .inr ⟨fun a ha => ?_, ?_⟩
        · rw [harm] at ha
          split at ha <;> cases ha
        · rw [harm]
          split <;> rfl
      | none =>
        cases hfound : matchDevices devices [] request.devices with
        | error e =>
          simp only [hcompleted, hpending, hfound] at harm
          exact .inr ⟨fun a ha => (by rw [harm] at ha; cases ha), by rw [harm]⟩
        | ok found =>
          simp only [hcompleted, hpending, hfound] at harm
          exact .inl ⟨entry, found, rfl, hwell, rfl, rfl, rfl, harm⟩
  · obtain ⟨reason, detail, harm⟩ := l.arm_malformed peer devices now h
    exact .inr ⟨fun a ha => (by rw [harm] at ha; cases ha), by rw [harm]⟩

variable {l : IncomingLedger F}

theorem observe_none (h : l.pending = none) (devices : LocalDevices) (now : Nat) :
    l.observe devices now = (⟨none, none⟩, l) := by
  rw [observe, h]

theorem observe_some {pending : PendingIncoming F} (h : l.pending = some pending) (devices : LocalDevices) (now : Nat) :
    ∃ entry, l.observe devices now =
      if (pending.observed devices now).allArrived then
        (⟨entry, some ⟨pending.peer, (pending.observed devices now).result .arrived⟩⟩,
          (l.finish (pending.observed devices now) .arrived).2)
      else (⟨entry, none⟩, { l with pending := some (pending.observed devices now) }) := by
  refine ⟨(lookAll devices (now - pending.acceptedAt) pending.entry (pending.entryPlaced, none)
    pending.devices).2.2, ?_⟩
  rw [observe, h]
  rfl

theorem expire_none (h : l.pending = none) (now : Nat) : l.expire now = (none, l) := by
  rw [expire, h]

theorem expire_some {pending : PendingIncoming F} (h : l.pending = some pending) (now : Nat) :
    l.expire now =
      if now < pending.deadline then (none, l)
      else
        (some ⟨pending.peer, pending.result (if pending.anyArrived then .partialArrival else .timeout)⟩,
          (l.finish pending (if pending.anyArrived then .partialArrival else .timeout)).2) := by
  rw [expire, h]
  rfl

/-- **A cancel changes nothing but an armed transfer of that peer, with no arrival.** -/
theorem cancel_cases (l : IncomingLedger F) (peer : PublicKey) (transferId : UInt64) :
    (∃ pending, l.pending = some pending ∧ pending.transfer = (peer, transferId) ∧ pending.anyArrived = false ∧
      l.cancel peer transferId = (.disarmed, (l.finish pending .cancelled).2)) ∨
    ((l.cancel peer transferId).1 ≠ .disarmed ∧ (l.cancel peer transferId).2 = l) := by
  simp only [cancel]
  split
  · exact .inr ⟨fun h => (by cases h), rfl⟩
  · rename_i pending hpending
    obtain ⟨hp, hkey⟩ := Option.filter_eq_some_iff.1 hpending
    simp only [Bool.and_eq_true, decide_eq_true_eq] at hkey
    split
    · exact .inr ⟨fun h => (by cases h), rfl⟩
    · rename_i harrived
      have htransfer : pending.transfer = (peer, transferId) := by rw [← hkey.1, ← hkey.2, PendingIncoming.transfer]
      exact .inl ⟨pending, hp, htransfer, by simpa using harrived, rfl⟩

end IncomingLedger

end Handoff
end Flow
end OpenLogi
