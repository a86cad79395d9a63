import OpenLogi.Lib.Run
import OpenLogi.Hidpp.Pending
/-!
# Channel — the requests of one HID++ channel, in any order

A request registers, parking until its header is free; it is sent; a message of the device answers it, or its
`PendingRequest` is dropped, by a deadline or a cancellation.  Each event is one critical section of the queue's lock,
or an action outside of it.  What was asked of the device (`Asked`) is kept beside the queue: no operation reads it.
-/
namespace OpenLogi
namespace Hidpp

structure HidppChannel where
  supportsShort : Bool
  supportsLong : Bool

def HidppChannel.supportsMsg (c : HidppChannel) : HidppMessage → Bool
  | .short _ => c.supportsShort
  | .long _ => c.supportsLong

def HidppChannel.normalizeOutgoing (c : HidppChannel) (msg : HidppMessage) : HidppMessage :=
  match msg with
  | .short _ => if !c.supportsShort && c.supportsLong then msg.widened else msg
  | .long _ => msg

/-- Re-framing keeps the header, so the reply still matches the request. -/
theorem HidppChannel.header_normalizeOutgoing (c : HidppChannel) (msg : HidppMessage) :
    (c.normalizeOutgoing msg).header = msg.header := by
  unfold normalizeOutgoing
  split
  · split
    · exact HidppMessage.header_widened _
    · rfl
  · rfl

/-- A request in `register_when_key_free`, awaiting its waker and, while its key is merely stale, the end of the
grace. -/
structure Parked where
  message : PendingMessage
  waiter : Nat
  timer : Option Nat

/-- A registered request: what it asks, whether it went out, whether its own reply came, and since when it has not
been pending. -/
structure Asked where
  request : HidppMessage
  sent : Bool := false
  replied : Bool := false
  left : Option Nat := none

structure Sys where
  clock : Nat := 0
  pendingMessageId : Nat := 0
  nextWaiter : Nat := 0
  queue : PendingQueue := {}
  parked : List Parked := []
  asked : Nat → Option Asked := fun _ => none

inductive Ev where
  | tick (elapsed : Nat)
  /-- `send_with`, up to the first poll of its registration, which read the clock at `now`. -/
  | start (msg : HidppMessage) (abandoned : AbandonedReply) (responsePredicate : HidppMessage → Bool) (now : Nat)
  | retry (id now : Nat)
  | cancelParked (id : Nat)
  | send (id : Nat)
  /-- A message of the device: the reply to the request `origin`, or one it sent on its own. -/
  | incoming (origin : Option Nat) (msg : HidppMessage)
  | drop (id : Nat)

namespace Sys

def setAsked (s : Sys) (id : Nat) (asked : Asked) : Sys :=
  { s with asked := Function.update s.asked id (some asked) }

/-- The request `id` is no longer pending. -/
def leave (s : Sys) (id : Nat) : Sys :=
  match s.asked id with
  | none => s
  | some a => s.setAsked id { a with left := some s.clock }

def markReplied (s : Sys) : Option Nat → Sys
  | none => s
  | some id =>
    match s.asked id with
    | none => s
    | some a => s.setAsked id { a with replied := true }

def IsPending (s : Sys) (id : Nat) : Prop := ∃ message ∈ s.queue.messages, message.id = id

instance (s : Sys) (id : Nat) : Decidable (s.IsPending id) :=
  inferInstanceAs (Decidable (∃ message ∈ s.queue.messages, message.id = id))

/-- The waker was sent, or the grace it also awaits is over. -/
def Signalled (s : Sys) (p : Parked) : Prop :=
  p.waiter ∉ s.queue.keyWaiters ∨ ∃ expires, p.timer = some expires ∧ expires ≤ s.clock

instance (s : Sys) (p : Parked) : Decidable (s.Signalled p) :=
  match h : p.timer with
  | none => decidable_of_iff (p.waiter ∉ s.queue.keyWaiters) (by simp [Signalled, h])
  | some expires => decidable_of_iff (p.waiter ∉ s.queue.keyWaiters ∨ expires ≤ s.clock) (by simp [Signalled, h])

/-- One turn of the registration loop: the request registers, or parks behind a new waker. -/
def poll (s : Sys) (message : PendingMessage) (now : Nat) : Sys :=
  match s.queue.tryRegister message now with
  | (queue, none) => { s with queue := queue }.setAsked message.id { request := message.request }
  | (queue, some wait) =>
    { s with
      queue := { queue with keyWaiters := queue.keyWaiters ++ [s.nextWaiter] }
      nextWaiter := s.nextWaiter + 1
      parked := ⟨message, s.nextWaiter, match wait with | .inFlight => none | .stale expires => some expires⟩ ::
        s.parked }

/-- A message of the device reaches the read loop. -/
def receive (s : Sys) (origin : Option Nat) (msg : HidppMessage) : Sys :=
  match s.queue.dispatch msg s.clock with
  | (none, queue) => { s with queue := queue }.markReplied origin
  | (some message, queue) => ({ s with queue := queue }.markReplied origin).leave message.id

end Sys

def step (c : HidppChannel) (s : Sys) : Ev → Option Sys
  | .tick elapsed => some { s with clock := s.clock + elapsed }
  | .start msg abandoned responsePredicate now =>
    let msg := c.normalizeOutgoing msg
    if c.supportsMsg msg ∧ now ≤ s.clock then
      let message : PendingMessage := ⟨s.pendingMessageId, msg.header, msg, abandoned, responsePredicate, 0, rfl⟩
      some ({ s with pendingMessageId := s.pendingMessageId + 1 }.poll message now)
    else none
  | .retry id now =>
    match s.parked.find? fun p => p.message.id = id with
    | none => none
    | some p =>
      if s.Signalled p ∧ now ≤ s.clock then
        some ({ s with parked := s.parked.eraseP fun p => p.message.id = id }.poll p.message now)
      else none
  | .cancelParked id => some { s with parked := s.parked.eraseP fun p => p.message.id = id }
  | .send id =>
    match s.asked id with
    | none => none
    | some a => if a.sent then none else some (s.setAsked id { a with sent := true })
  | .incoming origin msg => some (s.receive origin msg)
  | .drop id =>
    let s' := { s with queue := s.queue.abandon id s.clock }
    some (if s.IsPending id then s'.leave id else s')

/-! ## What the marks leave alone -/

/-- **The marks on the registry** change nothing else. -/
theorem Sys.leave_frame (s : Sys) (id : Nat) : ∃ asked, s.leave id = { s with asked := asked } := by
  unfold leave
  split
  · exact ⟨s.asked, rfl⟩
  · exact ⟨_, rfl⟩

theorem Sys.markReplied_frame (s : Sys) (origin : Option Nat) :
    ∃ asked, s.markReplied origin = { s with asked := asked } := by
  unfold markReplied
  split
  · exact ⟨s.asked, rfl⟩
  · split
    · exact ⟨s.asked, rfl⟩
    · exact ⟨_, rfl⟩

theorem Sys.markReplied_queue (s : Sys) (queue : PendingQueue) (origin : Option Nat) :
    ({ s with queue := queue } : Sys).markReplied origin = { s.markReplied origin with queue := queue } := by
  cases origin with
  | none => rfl
  | some id =>
    simp only [markReplied]
    split <;> rfl

theorem Sys.markReplied_some {s : Sys} {id : Nat} {a : Asked} (ha : s.asked id = some a) :
    s.markReplied (some id) = s.setAsked id { a with replied := true } := by
  simp only [markReplied, ha]

end Hidpp
end OpenLogi
