import OpenLogi.Scroll.Sources
/-!
# Worker — the scroll worker and its producers

Producers queue input and cancel sessions, each call in its atomic parts: the generation is read, then the command is
sent.  The worker drains the controls, waits for one command, reads the smoothing setting and the generation, and only
then handles the command.  The history at the end of `ScrollSystem` is not the program's: it names the cancellations
that began, were delivered and were handled.
-/
namespace OpenLogi
namespace Scroll

open Button (HidppSessionId)

variable {F : Type} [F64 F]

/-! ## Commands -/

inductive ScrollOutputMode (F : Type) [F64 F] where
  | smooth (now : Nat)
  | phased (now : Nat)
  | eased (now : Nat) (notches : F) (momentum : Option (MomentumParams F))
  | direct

/-- Output for a diverted impulse under the smoothing setting, if any but direct. -/
def ScrollOutputMode.hidpp (smoothing : Bool) (impulse : WheelDelta F) (now : Nat) : Option (ScrollOutputMode F) :=
  if smoothing then some (.smooth now) else if F64.eq impulse.y (F64.lit 0) then some (.phased now) else none

structure ScrollInput (F : Type) [F64 F] where
  generation : Nat
  source : ScrollSource
  impulse : WheelDelta F
  output : ScrollOutputMode F

/-- Input queued under the other setting is classified again, as if it were submitted now. -/
def ScrollInput.outputUnder (input : ScrollInput F) (smoothing : Bool) : ScrollOutputMode F :=
  match input.output, input.source with
  | .eased now notches momentum, _ => .eased now notches momentum
  | .smooth now, .hidpp _ _ | .phased now, .hidpp _ _ =>
    (ScrollOutputMode.hidpp smoothing input.impulse now).getD .direct
  | .smooth now, .osHook _ | .phased now, .osHook _ => if smoothing then .smooth now else .direct
  | .direct, _ => .direct

inductive ScrollCommand (F : Type) [F64 F] where
  | input (input : ScrollInput F)
  | cancelSession (session : HidppSessionId)
  | wake

inductive ScrollControl where
  | cancelOverflowSession (session : HidppSessionId) (generation : Nat)
  | shutdown
  deriving DecidableEq

def inputQueueCapacity : Nat := 128

/-! ## Overflow cancellations -/

/-- The highest cancelled epoch of each device, in one generation of the worker. -/
structure OverflowCancellations where
  generation : Nat
  sessions : String → Option Nat := fun _ => none

namespace OverflowCancellations

variable (cancellations : OverflowCancellations)

def cancel (session : HidppSessionId) (generation : Nat) : Bool × OverflowCancellations :=
  if generation ≠ cancellations.generation then (false, cancellations)
  else
    let epoch := match cancellations.sessions session.deviceKey with
      | some epoch => max epoch session.epoch
      | none => session.epoch
    (true, { cancellations with sessions := Function.update cancellations.sessions session.deviceKey (some epoch) })

def advanceTo (generation : Nat) : Bool × OverflowCancellations :=
  if generation = cancellations.generation then (false, cancellations) else (true, { generation })

def accepts (input : ScrollInput F) : Bool :=
  input.generation = cancellations.generation &&
    match input.source with
    | .osHook _ => true
    | .hidpp session _ => (cancellations.sessions session.deviceKey).all fun cancelled => cancelled < session.epoch

end OverflowCancellations

/-! ## The worker -/

/-- What the wait for a command returns. -/
inductive Received (F : Type) [F64 F] where
  | command (command : ScrollCommand F)
  | timeout
  | disconnected

def Received.isDisconnected : Received F → Bool
  | .disconnected => true
  | .command _ | .timeout => false

def Received.cancelled : Received F → Option HidppSessionId
  | .command (.cancelSession session) => some session
  | .command (.input _) | .command .wake | .timeout | .disconnected => none

/-- The state of the worker's loop; `direct` is the log of the distances it emits unframed. -/
structure Worker (F : Type) [F64 F] where
  engine : ScrollEngine F := {}
  observedSmoothing : Bool
  cancellations : OverflowCancellations
  direct : List (ScrollSource × WheelDelta F) := []

namespace Worker

variable (w : Worker F)

/-- Enter the generation read, cancelling everything if it is a new one. -/
def catchUp (generation : Nat) (toggled : Bool) : Worker F :=
  let (advanced, cancellations) := w.cancellations.advanceTo generation
  { w with cancellations, engine := if advanced || toggled then w.engine.cancelAll else w.engine }

def cancelSession (session : HidppSessionId) : Worker F := { w with engine := w.engine.cancelSession session }

/-- A control from a generation not observed yet is not stale: catch up first. -/
def caught (cancelled shared : Nat) : Worker F :=
  if w.cancellations.generation < cancelled then w.catchUp shared false else w

/-- One overflow control. -/
def cancelOverflow (session : HidppSessionId) (cancelled shared : Nat) : Worker F :=
  let w := w.caught cancelled shared
  match w.cancellations.cancel session cancelled with
  | (true, cancellations) => { w with cancellations }.cancelSession session
  | (false, cancellations) => { w with cancellations }

def submit (input : ScrollInput F) : Worker F :=
  match input.outputUnder w.observedSmoothing with
  | .smooth now => { w with engine := w.engine.impulse input.source input.impulse now }
  | .eased now notches momentum =>
    { w with engine := w.engine.wheelImpulse input.source input.impulse notches momentum now }
  | .phased now => { w with engine := w.engine.phasedImpulse input.source input.impulse now }
  | .direct =>
    { w with engine := w.engine.cancelSource input.source, direct := w.direct ++ [(input.source, input.impulse)] }

def handle (received : Received F) (now : Nat) : Worker F :=
  match received with
  | .command (.input input) => if w.cancellations.accepts input then w.submit input else w
  | .command (.cancelSession session) => w.cancelSession session
  | .command .wake => w
  | .timeout => { w with engine := w.engine.advanceDue now }
  | .disconnected => { w with engine := w.engine.cancelAll }

end Worker

/-- Where the worker is in its loop. -/
inductive WorkerPhase (F : Type) [F64 F] where
  | draining
  | receiving
  | received (received : Received F)
  /-- The smoothing setting is read, the generation is not. -/
  | observed (received : Received F) (toggled : Bool)
  | stopped

/-- What was received and is not handled yet. -/
def WorkerPhase.inHand : WorkerPhase F → Option (Received F)
  | .received r | .observed r _ => some r
  | .draining | .receiving | .stopped => none

/-! ## The system -/

/-- A call of `cancel_hidpp_session` that has read the generation; `full` once the queue refused its command. -/
structure CancelCall where
  session : HidppSessionId
  generation : Nat
  full : Bool := false

/-- The first call that cancels a session: the generation it read, and the sessions whose cancellation had been
delivered by then. -/
structure Began where
  generation : Nat
  earlier : List HidppSessionId

structure ScrollSystem (F : Type) [F64 F] where
  generation : Nat := 0
  smoothing : Bool
  commands : List (ScrollCommand F) := []
  controls : List ScrollControl := []
  /-- Inputs that have read the generation and are not sent yet. -/
  preparing : List (ScrollInput F) := []
  cancelling : List CancelCall := []
  worker : Worker F
  phase : WorkerPhase F := .draining
  began : HidppSessionId → Option Began := fun _ => none
  delivered : List HidppSessionId := []
  handled : List HidppSessionId := []

def ScrollSystem.init (smoothing : Bool) : ScrollSystem F :=
  { smoothing, worker := { observedSmoothing := smoothing, cancellations := { generation := 0 } } }

inductive ScrollEvent (F : Type) [F64 F] where
  /-- `try_enqueue` reads the generation. -/
  | prepare (source : ScrollSource) (impulse : WheelDelta F) (output : ScrollOutputMode F)
  | send (i : Nat)
  /-- `cancel_hidpp_session` reads the generation. -/
  | cancelBegin (session : HidppSessionId)
  | cancelSend (i : Nat)
  | cancelOverflow (i : Nat)
  | bump
  | wake
  | toggle
  | requestShutdown
  /-- The worker takes one control, or finds none left. -/
  | drain
  | receive
  | timeout
  | disconnect
  | observe
  | finish (now : Nat)
  /-- The hash maps iterate in another order from now on. -/
  | rehash (active wheels : List ScrollSource)

namespace ScrollSystem

variable (s : ScrollSystem F)

/-- Whether input of the source may still be queued: its session's cancellation has not begun. -/
def mayQueue (source : ScrollSource) : Bool :=
  match source with
  | .osHook _ => true
  | .hidpp session _ => (s.began session).isNone

def isStopped : Bool :=
  match s.phase with
  | .stopped => true
  | .draining | .receiving | .received _ | .observed _ _ => false

/-- `try_send`: nothing is queued past the capacity, or once the worker has gone. -/
def trySend (command : ScrollCommand F) : ScrollSystem F :=
  if s.isStopped || inputQueueCapacity ≤ s.commands.length then s
  else { s with commands := s.commands ++ [command] }

def sendControl (control : ScrollControl) : ScrollSystem F :=
  if s.isStopped then s else { s with controls := s.controls ++ [control] }

/-- One control taken from the head of the queue. -/
def takeControl (control : ScrollControl) (rest : List ScrollControl) : ScrollSystem F :=
  match control with
  | .cancelOverflowSession session generation =>
    { s with
      controls := rest, worker := s.worker.cancelOverflow session generation s.generation
      handled := session :: s.handled }
  | .shutdown =>
    { s with controls := rest, worker := { s.worker with engine := s.worker.engine.cancelAll }, phase := .stopped }

/-- The generation is read, and what was received is handled. -/
def finish (received : Received F) (toggled : Bool) (now : Nat) : ScrollSystem F :=
  { s with
    worker := (s.worker.catchUp s.generation toggled).handle received now
    phase := if received.isDisconnected then .stopped else .draining
    handled := received.cancelled.toList ++ s.handled }

end ScrollSystem

open ScrollSystem in
/-- One atomic action of a producer or of the worker. -/
def systemStep (s : ScrollSystem F) : ScrollEvent F → Option (ScrollSystem F)
  | .prepare source impulse output =>
    some { s with preparing := s.preparing ++ [⟨s.generation, source, impulse, output⟩] }
  | .send i =>
    match s.preparing[i]? with
    | none => none
    | some input =>
      if s.mayQueue input.source then some ({ s with preparing := s.preparing.eraseIdx i }.trySend (.input input))
      else none
  | .cancelBegin session => some { s with
      cancelling := s.cancelling ++ [⟨session, s.generation, false⟩]
      began := Function.update s.began session (some ((s.began session).getD ⟨s.generation, s.delivered⟩)) }
  | .cancelSend i =>
    match s.cancelling[i]? with
    | none => none
    | some call =>
      if call.full then none
      else if s.isStopped then some { s with cancelling := s.cancelling.eraseIdx i }
      else if inputQueueCapacity ≤ s.commands.length then
        some { s with cancelling := s.cancelling.set i { call with full := true } }
      else some { s with
        cancelling := s.cancelling.eraseIdx i, commands := s.commands ++ [.cancelSession call.session]
        delivered := call.session :: s.delivered }
  | .cancelOverflow i =>
    match s.cancelling[i]? with
    | none => none
    | some call =>
      if call.full then some ({ s with
        cancelling := s.cancelling.eraseIdx i
        delivered := call.session :: s.delivered }.sendControl (.cancelOverflowSession call.session call.generation))
      else none
  | .bump => some { s with generation := s.generation + 1 }
  | .wake => some (s.trySend .wake)
  | .toggle => some { s with smoothing := !s.smoothing }
  | .requestShutdown => some (s.sendControl .shutdown)
  | .drain =>
    match s.phase, s.controls with
    | .draining, [] => some { s with phase := .receiving }
    | .draining, control :: rest => some (s.takeControl control rest)
    | _, _ => none
  | .receive =>
    match s.phase, s.commands with
    | .receiving, command :: rest => some { s with commands := rest, phase := .received (.command command) }
    | _, _ => none
  | .timeout =>
    match s.phase, s.commands with
    | .receiving, [] => some { s with phase := .received .timeout }
    | _, _ => none
  | .disconnect =>
    match s.phase, s.commands with
    | .receiving, [] => some { s with phase := .received .disconnected }
    | _, _ => none
  | .observe =>
    match s.phase with
    | .received received => some { s with
        worker := { s.worker with observedSmoothing := s.smoothing }
        phase := .observed received (s.smoothing != s.worker.observedSmoothing) }
    | _ => none
  | .finish now =>
    match s.phase with
    | .observed received toggled => some (s.finish received toggled now)
    | _ => none
  | .rehash active wheels =>
    (step s.worker.engine (.rehash active wheels)).map fun engine => { s with worker := { s.worker with engine } }

end Scroll
end OpenLogi
