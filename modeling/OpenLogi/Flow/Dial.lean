import OpenLogi.Flow.Actor
/-!
# Dial — two paired machines that dial each other

Each end acquires a connection, runs its session on it, and waits before it dials again.  Which of two crossing
connections it keeps, it decides alone, from the two keys.  The handshakes, the queue of accepted connections and the
phase of both ends are the state of a system.  A close is seen by the other end later; retry delays, heartbeats and the
shutdown are left out.
-/
namespace OpenLogi
namespace Flow
namespace Dial

def incomingQueue : Nat := 4

inductive End where
  | left
  | right
  deriving DecidableEq

def End.other : End → End
  | .left => .right
  | .right => .left

/-- A connection: the end that dialed it, and a number of its own. -/
structure Conn where
  dialer : End
  number : Nat
  deriving DecidableEq

inductive ConnectionDirection where
  | outgoing
  | incoming
  deriving DecidableEq

def Conn.direction (c : Conn) (e : End) : ConnectionDirection := if c.dialer = e then .outgoing else .incoming

section
variable (key : End → PublicKey)

/-- The end whose key is the smaller one. -/
def isSmaller (e : End) : Bool := (key e).1 < (key e.other).1

/-- Whether the end closes the connection that it dialed, in favour of an incoming one. -/
def closeIfOutgoingLosesTie (e : End) (c : Conn) : Bool := c.direction e = .outgoing && isSmaller key e

inductive AcquireOutcome where
  | connection (c : Conn)
  | unavailable
  deriving DecidableEq

/-- What an acquire ends with once its dial has, and what it closes. -/
def acquireDialed (e : End) (dialed pendingIncoming : Option Conn) : AcquireOutcome × List Conn :=
  match dialed, pendingIncoming with
  | some outgoing, some incoming =>
    if isSmaller key e then (.connection incoming, [outgoing]) else (.connection outgoing, [incoming])
  | some outgoing, none => (.connection outgoing, [])
  | none, some incoming => (.connection incoming, [])
  | none, none => (.unavailable, [])

/-- Where a peer's worker is.  `dialed` is the dial that was authenticated and exchanges `Hello`. -/
inductive Phase where
  | acquiring (dialed pendingIncoming : Option Conn)
  | waiting
  | running (connection : Conn)
  deriving DecidableEq

structure PeerSignals where
  state : LinkState := .lost
  connection : Option Conn := none
  deriving DecidableEq

/-- One end's worker for the other: the accepted connections queued for it, and the handshakes of those to come. -/
structure Peer where
  phase : Phase := .acquiring none none
  incoming : List Conn := []
  handshakes : List Conn := []
  signals : PeerSignals := {}
  deriving DecidableEq

namespace Peer

def startSession (p : Peer) (c : Conn) : Peer := { p with phase := .running c, signals := ⟨.connected, some c⟩ }

def acquired (p : Peer) : AcquireOutcome → Peer
  | .connection c => p.startSession c
  | .unavailable => { p with phase := .waiting }

/-- The peer takes a connection from its queue; what it closes. -/
def takeIncoming (p : Peer) (e : End) (candidate : Conn) : Peer × List Conn :=
  match p.phase with
  | .acquiring dialed pendingIncoming =>
    -- An acquire that returns drops its dial, and with it the connection that the dial was establishing.
    if isSmaller key e then (p.startSession candidate, dialed.toList ++ pendingIncoming.toList)
    else if pendingIncoming.isSome then (p, [candidate])
    else ({ p with phase := .acquiring dialed (some candidate) }, [])
  | .waiting => (p.startSession candidate, [])
  | .running c =>
    if c.direction e = .outgoing && closeIfOutgoingLosesTie key e c then (p.startSession candidate, [c])
    else (p, [candidate])

/-- A handshake of the acceptor has completed. -/
def accept (p : Peer) (c : Conn) : Peer × List Conn :=
  let p := { p with handshakes := p.handshakes.erase c }
  if p.incoming.length < incomingQueue then ({ p with incoming := p.incoming ++ [c] }, []) else (p, [c])

end Peer

structure Sys where
  peer : End → Peer := fun _ => {}
  /-- The connections that an end has closed, or that were lost. -/
  closed : List Conn := []
  nextNumber : Nat := 0
  /-- The dials that were authenticated. -/
  dials : List Conn := []
  /-- The connections that were established at an end. -/
  established : List Conn := []
  lost : List Conn := []

inductive Event where
  /-- A dialed address was authenticated as the peer. -/
  | dialed (e : End)
  /-- No dialed address was. -/
  | unavailable (e : End)
  /-- The dialer's `Hello` exchange has completed. -/
  | establish (e : End)
  /-- The dialer's `Hello` exchange has met a closed connection. -/
  | refused (e : End)
  /-- The acceptor's `Hello` exchange has completed. -/
  | accept (e : End) (c : Conn)
  /-- The acceptor's `Hello` exchange has met a closed connection. -/
  | abort (e : End) (c : Conn)
  /-- The worker takes the next accepted connection. -/
  | receive (e : End)
  /-- The retry delay is over. -/
  | elapsed (e : End)
  /-- The worker sees that its connection is closed. -/
  | notice (e : End)
  /-- A connection ends for a reason other than a tie. -/
  | lose (c : Conn)
  deriving DecidableEq

namespace Sys

/-- One end moves and closes connections. -/
def move (s : Sys) (e : End) (after : Peer × List Conn) : Sys :=
  { s with peer := Function.update s.peer e after.1, closed := after.2 ++ s.closed }

/-- The dial of an acquire has ended. -/
def dialEnded (s : Sys) (e : End) (dialed pendingIncoming : Option Conn) : Sys :=
  let (outcome, closes) := acquireDialed key e dialed pendingIncoming
  s.move e ((s.peer e).acquired outcome, closes)

def step (s : Sys) : Event → Option Sys
  | .dialed e =>
    match (s.peer e).phase with
    | .acquiring none pendingIncoming =>
      let c : Conn := ⟨e, s.nextNumber⟩
      let dialer := { s.peer e with phase := .acquiring (some c) pendingIncoming }
      let acceptor := { s.peer e.other with handshakes := c :: (s.peer e.other).handshakes }
      some { s with
        peer := Function.update (Function.update s.peer e dialer) e.other acceptor
        nextNumber := s.nextNumber + 1
        dials := c :: s.dials }
    | _ => none
  | .unavailable e =>
    match (s.peer e).phase with
    | .acquiring none pendingIncoming => some (s.dialEnded key e none pendingIncoming)
    | _ => none
  | .establish e =>
    match (s.peer e).phase with
    | .acquiring (some c) pendingIncoming =>
      some { s.dialEnded key e (some c) pendingIncoming with established := c :: s.established }
    | _ => none
  | .refused e =>
    match (s.peer e).phase with
    | .acquiring (some c) pendingIncoming =>
      if c ∈ s.closed then some (s.dialEnded key e none pendingIncoming) else none
    | _ => none
  | .accept e c =>
    if c ∈ (s.peer e).handshakes then
      some { s.move e ((s.peer e).accept c) with established := c :: s.established }
    else none
  | .abort e c =>
    if c ∈ (s.peer e).handshakes ∧ c ∈ s.closed then
      some (s.move e ({ s.peer e with handshakes := (s.peer e).handshakes.erase c }, []))
    else none
  | .receive e =>
    match (s.peer e).incoming with
    | candidate :: incoming =>
      some (s.move e (Peer.takeIncoming key { s.peer e with incoming := incoming } e candidate))
    | [] => none
  | .elapsed e =>
    match (s.peer e).phase with
    | .waiting => some (s.move e ({ s.peer e with phase := .acquiring none none }, []))
    | _ => none
  | .notice e =>
    match (s.peer e).phase with
    | .running c =>
      if c ∈ s.closed then some (s.move e ({ s.peer e with phase := .waiting, signals := {} }, [])) else none
    | _ => none
  | .lose c => if c ∈ s.dials then some { s with closed := c :: s.closed, lost := c :: s.lost } else none

/-- Nothing is under way at an end: no handshake, no accepted connection not yet taken, no close not yet seen. -/
def isSettled (s : Sys) (e : End) : Bool :=
  (s.peer e).handshakes.isEmpty && (s.peer e).incoming.isEmpty &&
    match (s.peer e).phase with
    | .acquiring dialed pendingIncoming => dialed.isNone && pendingIncoming.isNone
    | .waiting => true
    | .running c => c ∉ s.closed

def Quiescent (s : Sys) : Prop := ∀ e, s.isSettled e = true

end Sys

end

end Dial
end Flow
end OpenLogi
