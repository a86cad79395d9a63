import OpenLogi.Flow.Pairing
/-!
# Driver — pairing as the agent runs it

One task owns the attempt: commands, the peer's messages and the deadline reach it one at a time.  An event carries the
instant it is handled at, `now`, the instant its handling ends at, `later`, and what the system answers in between: a
nonce that is drawn, a peer that is saved.
-/
namespace OpenLogi
namespace Flow
namespace Driver

def openFor : Nat := 600000 * millis

def setupTimeout : Nat := 15000 * millis

def callTimeout : Nat := 10000 * millis

def linger : Nat := 2000 * millis

/-- Another computer, as the user sees it. -/
structure FlowPairingPeer where
  name : String
  publicKey : PublicKey
  deriving DecidableEq

inductive FlowPairingFailure where
  | peerCancelled
  | codeMismatch
  | timedOut
  | unreachable
  | peerBusy
  | incompatibleVersion
  | connectionLost
  | saveFailed (message : String)
  deriving DecidableEq

/-- The result of an attempt, as the user sees it. -/
inductive FlowPairingResult where
  | paired (peer : FlowPairingPeer) (name : String)
  | failed (peer : Option FlowPairingPeer) (reason : FlowPairingFailure)
  deriving DecidableEq

inductive FlowPairingCommandError where
  | busy
  | unknownPeer
  | nothingToConfirm
  deriving DecidableEq

/-! ## Messages -/

/-- This side's requests to the peer. -/
inductive Call where
  | start
  | reveal
  | confirm
  deriving DecidableEq

inductive ErrorCode where
  | invalid
  | internal
  | unsupportedKind
  deriving DecidableEq

/-- A request of the peer, with its payload where that decodes. -/
inductive Request where
  | pairStart (start : Option PairStart)
  | pairReveal (reveal : Option PairReveal)
  | pairConfirm
  | other
  deriving DecidableEq

inductive Response where
  | prompted (m : PairPrompted)
  | revealed (m : PairRevealed)
  | outcome (m : PairOutcome)
  | error (code : ErrorCode) (message : String)
  deriving DecidableEq

inductive Notification where
  | pairAbort (abort : Option PairAbort)
  | other
  deriving DecidableEq

/-- The answer to a request of this side, with its payload where that decodes. -/
inductive Answer where
  | prompted (m : Option PairPrompted)
  | revealed
  | outcome (m : Option PairOutcome)
  | error
  | other
  deriving DecidableEq

/-- The kind of the answer that each request expects. -/
def Answer.isExpected : Answer → Call → Bool
  | .prompted _, .start | .revealed, .reveal | .outcome _, .confirm => true
  | _, _ => false

/-- Work of an attempt, dropped with it. -/
inductive Task where
  | dial
  | read
  | startCall (m : PairStart)
  | revealCall (m : PairReveal)
  | confirmCall
  | respond (m : Response)
  | notifyAbort (m : PairAbort)
  deriving DecidableEq

/-! ## An attempt -/

inductive Role where
  | initiator
  | responder
  deriving DecidableEq

/-- Why an ended attempt still holds its connection. -/
inductive Ending where
  | flushing
  | paired
  deriving DecidableEq

/-- What ending an attempt does with its connection. -/
inductive Close where
  | now
  | flush
  | abort (reason : PairingAbortReason)
  deriving DecidableEq

/-- What the driver reads off a connection. -/
structure Connection where
  localKey : PublicKey
  peerKey : PublicKey
  localHello : HelloDigest
  peerHello : HelloDigest
  hello : FlowPairingPeer
  deriving DecidableEq

def Connection.pairingSession (c : Connection) : PairingSession :=
  .new c.localKey c.peerKey c.localHello c.peerHello

structure Link where
  connection : Connection
  session : PairingSession
  confirming : Bool
  deriving DecidableEq

/-- How saving a peer goes: under a name, refused, or lost with the thread that saves. -/
inductive Save where
  | saved (name : String)
  | refused (error : PersistPeerKeyError)
  | lost (detail : String)
  deriving DecidableEq

/-- `ConfigPeerStore`: the name the peer was saved under, if it was. -/
def Save.store (save : Save) : PeerKeyStore (Option String) := fun _ saved =>
  match save with
  | .saved name => (.ok (), some name)
  | .refused error => (.error error, saved)
  | .lost detail => (.error ⟨detail⟩, saved)

/-- Run a confirmation step on a blocking thread and keep the session it leaves. -/
def Link.confirm {T : Type} (link : Link) (save : Save)
    (step : PairingSession → PeerKeyStore (Option String) → Except PairingError T × PairingSession × Option String) :
    Except PairingError T × Link × Option String :=
  match save with
  | .lost detail => (.error (.persistence ⟨"the save task failed: " ++ detail⟩), link, none)
  | save =>
    let (result, session, saved) := step link.session save.store
    (result, { link with session }, saved)

structure Attempt where
  id : Nat
  role : Role
  peer : Option FlowPairingPeer
  shown : Bool
  address : Option String
  link : Option Link
  deadline : Nat
  ending : Option Ending
  tasks : List Task
  deriving DecidableEq

namespace Attempt

def new (id : Nat) (role : Role) (timeout now : Nat) : Attempt :=
  ⟨id, role, none, decide (role = .initiator), none, none, now + timeout, none, []⟩

def peerName (a : Attempt) : String := (a.peer.map FlowPairingPeer.name).getD ""

def respond (a : Attempt) (response : Response) : Attempt := { a with tasks := a.tasks ++ [.respond response] }

/-- The session ended itself for this reason. -/
def endedForReason (state : PairingState) (reason : PairingAbortReason) : Bool :=
  match state with
  | .aborted ended => decide (ended = reason)
  | .timedOut => decide (reason = .timeout)
  | _ => false

/-- Tell the peer why the ceremony ended. -/
def abort (a : Attempt) (reason : PairingAbortReason) : Attempt :=
  match a.link with
  | none => a
  | some link =>
    match link.session.abort reason with
    | (.ok m, session) => { a with link := some { link with session }, tasks := a.tasks ++ [Task.notifyAbort m] }
    | (.error _, session) =>
      if endedForReason link.session.state reason then
        { a with
          link := some { link with session }
          tasks := a.tasks ++ [Task.notifyAbort ⟨.known reason.toProto⟩] }
      else { a with link := some { link with session } }

/-- Tell the peer what closing this way tells it. -/
def tell (a : Attempt) : Close → Attempt
  | .abort reason => a.abort reason
  | _ => a

/-- Keep the connection open until the peer closes it or `wait` passes. -/
def endWith (a : Attempt) (ending : Ending) (wait now : Nat) : Attempt :=
  { a with shown := false, ending := some ending, deadline := now + wait }

end Attempt

/-! ## The session -/

structure Candidate where
  key : PublicKey
  peer : FlowPairingPeer
  deriving DecidableEq

inductive FlowPairTarget where
  | nearby (key : PublicKey)
  | address (address : String)
  deriving DecidableEq

/-- Pairing while it is open, with at most one attempt. -/
structure Session where
  codeTimeoutForPeer : Option Nat
  localKey : PublicKey
  nearby : List Candidate
  attempt : Option Attempt
  result : Option FlowPairingResult
  nextAttempt : Nat
  expires : Nat
  stopping : Bool
  saved : Nat
  closed : Bool
  deriving DecidableEq

/-- This side has confirmed, so the peer hears of it. -/
def tellPeer : PairingState → Bool
  | .prompted _ true _ | .paired => true
  | _ => false

/-- How long a code stays valid, from the responder's `timeoutMs`. -/
def codeTimeout (timeoutMs : UInt32) : Nat :=
  if timeoutMs = 0 then defaultPairingTimeout else timeoutMs.toNat * millis

/-- Why the ceremony fails when this side refused the reveal, given where the session stands after it. -/
def refusedReveal : PairingState → FlowPairingFailure × Close
  | .aborted .codeMismatch => (.codeMismatch, .abort .codeMismatch)
  | .timedOut => (.timedOut, .abort .timeout)
  | _ => (.connectionLost, .abort .userCancelled)

/-- What handling a request leaves: the attempt, whether it started the ceremony, the response, why it fails and the
name the peer was saved under. -/
structure Handled where
  attempt : Attempt
  started : Bool
  response : Response
  failure : Option (FlowPairingFailure × Close)
  saved : Option String
  deriving DecidableEq

namespace Session

def opened (codeTimeoutForPeer : Option Nat) (localKey : PublicKey) (now : Nat) : Session :=
  ⟨codeTimeoutForPeer, localKey, [], none, none, 0, now + openFor, false, 0, false⟩

variable (crypto : Crypto)

/-- End the attempt, showing `failure` if there is one and the user saw the attempt. -/
def failWith (s : Session) (failure : Option FlowPairingFailure) (close : Close) (later : Nat) : Session :=
  match s.attempt with
  | none => s
  | some attempt =>
    let result :=
      match failure with
      | some reason => if attempt.shown then some (.failed attempt.peer reason) else s.result
      | none => s.result
    let attempt := attempt.tell close
    if close ≠ .now ∧ attempt.link.isSome = true then
      { s with result, attempt := some (attempt.endWith .flushing linger later) }
    else { s with result, attempt := none }

def fail (s : Session) (failure : FlowPairingFailure) (close : Close) (later : Nat) : Session :=
  s.failWith (some failure) close later

/-- Act on where the ceremony now stands: `saved` names the peer if this step saved it. -/
def settle (s : Session) (saved : Option String) (later : Nat) : Session :=
  match s.attempt with
  | none => s
  | some attempt =>
    match attempt.link with
    | none => s
    | some link =>
      match link.session.state with
      | .paired =>
        match saved with
        | none => s
        | some name =>
          { s with
            result := some (.paired (attempt.peer.getD link.connection.hello) name)
            saved := s.saved + 1
            attempt := some (attempt.endWith .paired (if link.confirming then callTimeout else linger) later) }
      | .rejected => s.fail .peerCancelled .now later
      | .timedOut => s.fail .timedOut (.abort .timeout) later
      | _ => s

def handle (s : Session) (attempt : Attempt) (link : Link) (request : Request) (nonce : Option PairingNonce)
    (save : Save) (now later : Nat) : Handled :=
  match request with
  | .pairStart start =>
    if attempt.role = .responder then
      match start, nonce with
      | some start, some nonce =>
        match link.session.receiveStart start nonce now s.codeTimeoutForPeer with
        | (.ok prompted, session) =>
          ⟨{ attempt with
              link := some { link with session }
              deadline := later + codeTimeout prompted.timeoutMs
              shown := true }, true, .prompted prompted, none, none⟩
        | (.error _, session) =>
          ⟨{ attempt with link := some { link with session } }, false, .error .invalid "invalid PairStart", none, none⟩
      | _, _ => ⟨attempt, false, .error .invalid "invalid PairStart", none, none⟩
    else ⟨attempt, false, .error .invalid "already pairing", none, none⟩
  | .pairReveal reveal =>
    match reveal with
    | some reveal =>
      match link.session.receiveReveal crypto reveal now with
      | (.ok revealed, session) =>
        ⟨{ attempt with link := some { link with session } }, false, .revealed revealed, none, none⟩
      | (.error _, session) =>
        ⟨{ attempt with link := some { link with session } }, false, .error .invalid "invalid PairReveal",
          some (refusedReveal session.state), none⟩
    | none => ⟨attempt, false, .error .invalid "invalid PairReveal", some (refusedReveal link.session.state), none⟩
  | .pairConfirm =>
    match link.confirm save fun session store => session.receiveConfirm now store none with
    | (.ok outcome, link, saved) => ⟨{ attempt with link := some link }, false, .outcome outcome, none, saved⟩
    | (.error (.persistence error), link, saved) =>
      ⟨{ attempt with link := some link }, false, .error .internal "could not save the peer",
        some (.saveFailed ("failed to persist peer key: " ++ error.detail), .flush), saved⟩
    | (.error _, link, saved) =>
      ⟨{ attempt with link := some link }, false, .error .invalid "unexpected PairConfirm",
        some (.connectionLost, .flush), saved⟩
  | .other => ⟨attempt, false, .error .unsupportedKind "only pairing requests are served", none, none⟩

def request (s : Session) (request : Request) (nonce : Option PairingNonce) (save : Save) (now later : Nat) :
    Session :=
  match s.attempt with
  | none => s
  | some attempt =>
    match attempt.link with
    | none => s
    | some link =>
      let handled := s.handle crypto attempt link request nonce save now later
      let s := { s with
        attempt := some (handled.attempt.respond handled.response)
        result := if handled.started then none else s.result }
      match handled.failure with
      | some (failure, close) => s.fail failure close later
      | none => s.settle handled.saved later

def notification (s : Session) (notification : Notification) (later : Nat) : Session :=
  match s.attempt with
  | none => s
  | some attempt =>
    match attempt.ending, attempt.link, notification with
    | none, some link, .pairAbort (some abort) =>
      match link.session.receiveAbort abort with
      | (.error _, _) => s
      | (.ok (), session) =>
        let failure :=
          match session.state with
          | .aborted .codeMismatch => .codeMismatch
          | .aborted .timeout => .timedOut
          | _ => .peerCancelled
        { s with attempt := some { attempt with link := some { link with session } } }.fail failure .now later
    | _, _, _ => s

/-- The ceremony once an expected answer has come: the next reveal to send, or out of turn. -/
def progress (link : Link) (call : Call) (answer : Answer) (now : Nat) :
    Option (Option (PairReveal × UInt32)) × PairingSession :=
  match call, answer with
  | .start, .prompted (some prompted) =>
    match link.session.receivePrompted crypto prompted now with
    | (.ok reveal, session) => (some (some (reveal, prompted.timeoutMs)), session)
    | (.error _, session) => (none, session)
  | .reveal, _ =>
    match link.session.receiveRevealed now with
    | (.ok (), session) => (some none, session)
    | (.error _, session) => (none, session)
  | .confirm, .outcome (some outcome) =>
    match link.session.receiveOutcome outcome with
    | (.ok (), session) => (some none, session)
    | (.error _, session) => (none, session)
  | _, _ => (none, link.session)

def answered (s : Session) (call : Call) (answer : Option Answer) (busy : Bool) (now later : Nat) : Session :=
  match s.attempt with
  | none => s
  | some attempt =>
    match attempt.link with
    | none => s
    | some link =>
      let link := if call = .confirm then { link with confirming := false } else link
      let attempt := { attempt with link := some link }
      if call = .confirm ∧ attempt.ending = some .paired then { s with attempt := none }
      else
        let s := { s with attempt := some attempt }
        if attempt.ending.isSome = true ∨ link.session.state = .paired then s
        else
          match answer with
          | none => s.fail (if busy then .peerBusy else .connectionLost) .now later
          | some answer =>
            if answer.isExpected call then
              match progress crypto link call answer now with
              | (some (some (reveal, timeoutMs)), session) =>
                { s with
                  attempt := some { attempt with
                    link := some { link with session }
                    deadline := later + codeTimeout timeoutMs
                    tasks := attempt.tasks ++ [Task.revealCall reveal] } }
              | (some none, session) =>
                { s with attempt := some { attempt with link := some { link with session } } }.settle none later
              | (none, session) =>
                { s with attempt := some { attempt with link := some { link with session } } }.fail
                  (if session.state = PairingState.timedOut then .timedOut else .connectionLost)
                  (.abort .userCancelled) later
            else if answer = .error ∧ call = .reveal then s
            else s.fail .connectionLost .now later

def connected (s : Session) (connection : Connection) (nonce : Option PairingNonce) (later : Nat) : Session :=
  match s.attempt with
  | none => s
  | some attempt =>
    let attempt := { attempt with
      peer := some connection.hello
      tasks := attempt.tasks ++ [Task.read]
      link := some ⟨connection, connection.pairingSession, false⟩ }
    match attempt.role, nonce with
    | .responder, _ => { s with attempt := some attempt }
    | .initiator, none => { s with attempt := some attempt }.fail .connectionLost .now later
    | .initiator, some nonce =>
      match connection.pairingSession.start crypto nonce with
      | (.error _, _) => { s with attempt := some attempt }.fail .connectionLost .now later
      | (.ok start, session) =>
        { s with
          attempt := some { attempt with
            link := some ⟨connection, session, false⟩
            tasks := attempt.tasks ++ [Task.startCall start] } }

/-! ## Commands -/

def pair (s : Session) (target : FlowPairTarget) (later : Nat) : Except FlowPairingCommandError Unit × Session :=
  if s.attempt.any fun attempt => attempt.ending ≠ some .flushing then (.error .busy, s)
  else
    let started (peer : Option FlowPairingPeer) (address : Option String) : Session :=
      { s with
        attempt := some { Attempt.new (s.nextAttempt + 1) .initiator setupTimeout later with
          peer
          address
          tasks := [Task.dial] }
        result := none
        nextAttempt := s.nextAttempt + 1
        expires := later + openFor }
    match target with
    | .nearby key =>
      match s.nearby.find? fun candidate => candidate.key = key with
      | none => (.error .unknownPeer, s)
      | some candidate => (.ok (), started (some candidate.peer) none)
    | .address address => (.ok (), started none (some address))

def incoming (s : Session) (later : Nat) : Session :=
  if s.attempt.isSome = true ∨ s.stopping = true then s
  else
    { s with
      attempt := some { Attempt.new (s.nextAttempt + 1) .responder setupTimeout later with tasks := [Task.dial] }
      nextAttempt := s.nextAttempt + 1
      expires := later + openFor }

def confirm (s : Session) (save : Save) (now later : Nat) : Except FlowPairingCommandError Unit × Session :=
  match s.attempt with
  | none => (.error .nothingToConfirm, s)
  | some attempt =>
    match attempt.ending, attempt.link with
    | none, some link =>
      match link.session.state with
      | .prompted _ false _ =>
        let (confirmed, link, saved) := link.confirm save fun session store => session.confirmLocal now store none
        let s := { s with attempt := some { attempt with link := some link } }
        match confirmed with
        | .error (.persistence error) =>
          (.ok (), s.fail (.saveFailed ("failed to persist peer key: " ++ error.detail)) .now later)
        | _ =>
          -- an expired code confirms nothing, so the peer hears no confirmation
          let attempt := if tellPeer link.session.state then
              { attempt with
                link := some { link with confirming := true }
                tasks := attempt.tasks ++ [Task.confirmCall] }
            else { attempt with link := some link }
          (.ok (), { s with attempt := some attempt }.settle saved later)
      | _ => (.error .nothingToConfirm, s)
    | _, _ => (.error .nothingToConfirm, s)

def cancel (s : Session) (later : Nat) : Session :=
  let s := { s with result := none }
  if s.attempt.any fun attempt => attempt.shown && attempt.ending.isNone then
    s.failWith none (.abort .userCancelled) later
  else s

def stop (s : Session) (later : Nat) : Session :=
  let s := s.cancel later
  let s := if s.attempt.any fun attempt => attempt.ending.isNone then { s with attempt := none } else s
  { s with stopping := true }

def nearbyChanged (s : Session) (candidates : List Candidate) : Session :=
  { s with nearby := candidates.filter fun candidate => candidate.key ≠ s.localKey }

def deadline (s : Session) (later : Nat) : Session :=
  match s.attempt with
  | none => s
  | some attempt =>
    if attempt.ending.isSome = true then { s with attempt := none }
    else
      let failure := if attempt.link.isNone = true ∧ attempt.role = .initiator then .unreachable else .timedOut
      s.fail failure (.abort .timeout) later

end Session

/-! ## The loop -/

/-- What a task of an attempt reports. -/
inductive AttemptEvent where
  | connected (connection : Except FlowPairingFailure Connection) (nonce : Option PairingNonce)
  | request (request : Request) (nonce : Option PairingNonce) (save : Save)
  | notification (notification : Notification)
  | answered (call : Call) (answer : Option Answer) (busy : Bool)
  | closed (busy : Bool)

inductive Event where
  | renew
  | pair (target : FlowPairTarget)
  | confirm (save : Save)
  | cancel
  | stop
  | incoming
  | nearby (candidates : List Candidate)
  | deadline
  | expires
  | endpointClosed
  | tagged (attempt : Nat) (event : AttemptEvent)

/-- An event, the instant it is handled at and the instant its handling ends at. -/
structure Turn where
  now : Nat
  later : Nat
  event : Event

namespace Session

variable (crypto : Crypto)

def event (s : Session) (attempt : Attempt) (event : AttemptEvent) (now later : Nat) : Session :=
  match event with
  | .connected connection nonce =>
    let s := { s with attempt := some { attempt with tasks := attempt.tasks.filter (· ≠ Task.dial) } }
    match connection with
    | .ok connection => s.connected crypto connection nonce later
    | .error failure => s.fail failure .now later
  | .request request nonce save => s.request crypto request nonce save now later
  | .notification notification => s.notification notification later
  | .answered call answer busy => s.answered crypto call answer busy now later
  | .closed busy =>
    if attempt.ending.isSome = true then { s with attempt := none }
    else s.fail (if busy then .peerBusy else .connectionLost) .now later

/-- One turn of the loop, or `none` where the loop does not take the event: a command while it stops, a dial that has
reported, a deadline that has not come. -/
def step (s : Session) (turn : Turn) : Option Session :=
  if s.closed = true ∨ (s.stopping = true ∧ s.attempt.isNone = true) then none
  else
    match turn.event with
    | .renew => if s.stopping then none else some { s with expires := turn.later + openFor }
    | .pair target => if s.stopping then none else some (s.pair target turn.later).2
    | .confirm save => if s.stopping then none else some (s.confirm save turn.now turn.later).2
    | .cancel => if s.stopping then none else some (s.cancel turn.later)
    | .stop => if s.stopping then none else some (s.stop turn.later)
    | .incoming => some (s.incoming turn.later)
    | .nearby candidates => some (s.nearbyChanged candidates)
    | .deadline =>
      if s.attempt.any fun attempt => attempt.deadline ≤ turn.now then some (s.deadline turn.later) else none
    | .expires =>
      if s.attempt.isNone = true ∧ s.expires ≤ turn.now then some { s with closed := true } else none
    | .endpointClosed => some { s with attempt := none, closed := true }
    | .tagged id event =>
      match s.attempt with
      | none => some s
      | some attempt =>
        if attempt.id = id then
          match event with
          | .connected _ _ =>
            if .dial ∈ attempt.tasks then some (s.event crypto attempt event turn.now turn.later) else none
          | _ => some (s.event crypto attempt event turn.now turn.later)
        else some s

end Session
end Driver
end Flow
end OpenLogi
