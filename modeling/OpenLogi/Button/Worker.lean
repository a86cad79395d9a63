import OpenLogi.Lib.Run
import OpenLogi.Button.Press
/-!
# Worker — the button worker and its producers, one shared access at a time

What the worker computes between two accesses to shared state is a function of its own (`processCommand`,
`emitSettledEvents`); `work` is one access by the worker, its program counter saying where it stands in `run_worker` or
in `settle_due_long_presses`.  A producer prepares a command and sends it later, so that anything may come in between.
-/
namespace OpenLogi
namespace Button

open OpenLogi.Core (Action Binding)

/-! ## Commands and events -/

inductive CancelReason where
  | repeatedDown
  | staleHold
  | sourceEnded
  | invalidated
  | shutdown
  deriving DecidableEq

inductive EndReason where
  | released
  | canceled (reason : CancelReason)
  deriving DecidableEq

/-- What admitted an action: a gesture, the threshold found passed at `now`, a release stamped `releasedAt`, or the
release that a pulse implies.  The source keeps it in its comment alone. -/
inductive TriggerCause where
  | gesture
  | threshold (now : Nat)
  | release (releasedAt : Nat)
  | pulse
  deriving DecidableEq

inductive ButtonRuntimeEvent where
  | started (press : ActivePress)
  | ended (press : ActivePress) (reason : EndReason)
  | triggered (press : ActivePress) (action : Action) (cause : TriggerCause)
  deriving DecidableEq

def ButtonRuntimeEvent.press : ButtonRuntimeEvent → ActivePress
  | .started press => press
  | .ended press _ => press
  | .triggered press _ _ => press

inductive ButtonInput where
  | down (press : ActivePress)
  | up (key : PressKey) (releasedAt : Nat)
  | pulse (press : ActivePress)
  | triggerWhilePressed (token : PressToken) (action : Action)
  | wheelWhilePressed (token : PressToken)

inductive ButtonCommand where
  | input (generation : Nat) (input : ButtonInput)
  | cancelStalePress (token : PressToken)
  | cancelSource (source : ButtonSource)
  | cancelGKeys (source : ButtonSource)
  | cancelHooks
  | cancelPointerExcept (current : PointerTarget)
  | wake

/-! ## Between two accesses -/

def emitCanceled (presses : List ActivePress) (reason : CancelReason) : List ButtonRuntimeEvent :=
  presses.map fun press => .ended press (.canceled reason)

def emitReleased (press : ActivePress) (cause : TriggerCause) : List ButtonRuntimeEvent :=
  (press.behavior.releaseAction.toList.map fun action => .triggered press action cause) ++ [.ended press .released]

def emitStarted (stale : Option ActivePress) (press : ActivePress) : List ButtonRuntimeEvent :=
  emitCanceled stale.toList .repeatedDown ++ [.started press]

def processInput (s : ButtonState) : ButtonInput → List ButtonRuntimeEvent × ButtonState
  | .down press =>
    let (stale, s) := s.press press
    (emitStarted stale press, s)
  | .up key releasedAt =>
    match s.release key with
    | (none, s) => ([], s)
    | (some press, s) =>
      match press.fireLong releasedAt with
      | some (action, press) =>
        (.triggered press action (.release releasedAt) :: emitReleased press (.release releasedAt), s)
      | none => (emitReleased press (.release releasedAt), s)
  | .pulse press =>
    let (stale, s) := s.press press
    match s.release press.key with
    | (none, s) => (emitStarted stale press, s)
    | (some press', s) => (emitStarted stale press ++ emitReleased press' .pulse, s)
  | .triggerWhilePressed token action =>
    match s.activePress token with
    | none => ([], s)
    | some press => ([.triggered press action .gesture], s)
  | .wheelWhilePressed token => ([], s.wheelMoved token)

def processCommand (s : ButtonState) (command : ButtonCommand) (generation : Nat) :
    List ButtonRuntimeEvent × ButtonState :=
  match command with
  | .input inputGeneration input => if inputGeneration = generation then processInput s input else ([], s)
  | .wake => ([], s)
  | .cancelStalePress token =>
    let (press, s) := s.cancelPress token
    (emitCanceled press.toList .staleHold, s)
  | .cancelSource source =>
    let (presses, s) := s.cancelSource source
    (emitCanceled presses .sourceEnded, s)
  | .cancelGKeys source =>
    let (presses, s) := s.cancelGKeys source
    (emitCanceled presses .sourceEnded, s)
  | .cancelHooks =>
    let (presses, s) := s.cancelHooks
    (emitCanceled presses .sourceEnded, s)
  | .cancelPointerExcept current =>
    let (presses, s) := s.cancelPointerExcept current
    (emitCanceled presses .invalidated, s)

def emitSelectedLongPresses (s : ButtonState) (tokens : List PressToken) (now : Nat) :
    List ButtonRuntimeEvent × ButtonState :=
  let (fired, s) := s.fireSelectedLongPresses tokens now
  (fired.map fun (press, action) => .triggered press action (.threshold now), s)

/-- An event of a long press that a settle pass found due and that has fired. -/
def isDeadlineEvent (due : List PressToken) : ButtonRuntimeEvent → Bool
  | .triggered press _ _ | .ended press _ => press.behavior = .longPressFired ∧ press.token ∈ due
  | .started _ => false

def emitSettledEvents (events : List ButtonRuntimeEvent) (due : List PressToken) : List ButtonRuntimeEvent :=
  events.filter (isDeadlineEvent due) ++ events.filter fun event => !isDeadlineEvent due event

/-! ## The machine -/

def eventQueueCapacity : Nat := 128

/-- Where a settle pass stands: after a command was processed and after the shutdown check that follows it, at the top
of the drain, after its shutdown check, at its receive, or before it fires the deadlines. -/
inductive Stage where
  | processed
  | checked
  | drain
  | sync
  | recv
  | fire
  deriving DecidableEq

inductive Pc where
  | start
  | top
  | receive
  | received (command : ButtonCommand)
  | synced (command : ButtonCommand)
  | settle (first : Option ButtonCommand)
  | settleSync (first : Option ButtonCommand)
  | settleDue (first : Option ButtonCommand)
  | pass (stage : Stage) (due : List PressToken) (deferred : List ButtonRuntimeEvent) (limit : Nat)
  | exited

/-- A command that the worker has taken and is done with: whether the drain took it, the shared generation when it was
dequeued, the one that the worker's last refresh read, the one at the comparison, the state before, and what `processCommand`
returned, or `none` where the worker shut down with the command in hand. -/
structure Handled where
  drained : Bool
  command : ButtonCommand
  dequeued : Nat
  refreshed : Nat
  compared : Nat
  before : ButtonState
  out : Option (List ButtonRuntimeEvent × ButtonState)

structure Sys where
  sharedGeneration : Nat := 0
  nextPress : Nat := 1
  queue : List ButtonCommand := []
  accepting : Bool := true
  shutdown : Bool := false
  disconnected : Bool := false
  clock : Nat := 0
  /-- Commands that a producer has prepared and not yet sent. -/
  calls : List ButtonCommand := []
  pc : Pc := .start
  state : ButtonState := {}
  generation : Nat := 0
  emitted : List ButtonRuntimeEvent := []
  dequeued : Nat := 0
  refreshed : Nat := 0
  /-- Every command dequeued, and those done with, the last one first. -/
  taken : List ButtonCommand := []
  handled : List Handled := []

/-- A call of `ButtonInputHandle`, with the instant it reads.  The key calls are `down` and `up` of a key control. -/
inductive Call where
  | down (key : PressKey) (binding : Option Binding) (target : ActionDispatchTarget) (now : Nat)
  | up (key : PressKey) (now : Nat)
  | pulse (key : PressKey) (binding : Option Binding) (target : ActionDispatchTarget) (now : Nat)
  | triggerWhilePressed (token : PressToken) (action : Action)
  | wheelWhilePressed (token : PressToken)
  | cancel (command : ButtonCommand)

inductive Ev where
  | tick (elapsed : Nat)
  | call (call : Call)
  /-- `try_send` of a prepared command. -/
  | send (index : Nat)
  | invalidate
  | stopAccepting
  | requestShutdown
  | disconnect
  /-- The table of active presses may be iterated in any order. -/
  | rehash (rows : List ActivePress)
  | timeout
  | work

namespace Sys

/-! ### Producers -/

def newPress (s : Sys) (key : PressKey) (behavior : PressBehavior) (target : ActionDispatchTarget) : ActivePress :=
  ⟨⟨s.nextPress, key, s.sharedGeneration⟩, behavior, target⟩

def prepare (s : Sys) (command : ButtonCommand) : Sys := { s with calls := s.calls ++ [command] }

def prepareInput (s : Sys) (input : ButtonInput) : Sys := s.prepare (.input s.sharedGeneration input)

def call (s : Sys) : Call → Sys
  | .down key binding target now =>
    { s with nextPress := s.nextPress + 1 }.prepareInput (.down (s.newPress key (.new binding now) target))
  | .up key now => s.prepareInput (.up key now)
  | .pulse key binding target now =>
    { s with nextPress := s.nextPress + 1 }.prepareInput (.pulse (s.newPress key (.new binding now) target))
  | .triggerWhilePressed token action =>
    if token.generation = s.sharedGeneration then s.prepareInput (.triggerWhilePressed token action) else s
  | .wheelWhilePressed token =>
    if token.generation = s.sharedGeneration then s.prepareInput (.wheelWhilePressed token) else s
  | .cancel command =>
    match command with
    | .input _ _ | .wake => s
    | _ => s.prepare command

/-- The generation changes; its wake is sent later. -/
def invalidateAll (s : Sys) : Sys := { s with sharedGeneration := s.sharedGeneration + 1 }.prepare .wake

/-- A dropped command may have been a release, so it invalidates every press. -/
def tryCommand (s : Sys) (command : ButtonCommand) : Sys :=
  if s.queue.length < eventQueueCapacity then { s with queue := s.queue ++ [command] } else s.invalidateAll

def trySend (s : Sys) (command : ButtonCommand) : Sys :=
  match command with
  | .input _ _ => if s.accepting then s.tryCommand command else s
  | .wake => if s.queue.length < eventQueueCapacity then { s with queue := s.queue ++ [command] } else s
  | _ => s.tryCommand command

/-! ### Worker -/

def goto (s : Sys) (pc : Pc) : Sys := { s with pc := pc }

def emit (s : Sys) (out : List ButtonRuntimeEvent × ButtonState) : Sys :=
  { s with emitted := s.emitted ++ out.1, state := out.2 }

def cancelAll (s : Sys) (reason : CancelReason) : List ButtonRuntimeEvent × ButtonState :=
  (emitCanceled s.state.cancelAll.1 reason, s.state.cancelAll.2)

/-- What `synchronize_generation` emits. -/
def syncEvents (s : Sys) : List ButtonRuntimeEvent × ButtonState :=
  if s.sharedGeneration ≠ s.generation then s.cancelAll .invalidated else ([], s.state)

def refresh (s : Sys) : Sys := { s with generation := s.sharedGeneration, refreshed := s.sharedGeneration }

def take (s : Sys) (command : ButtonCommand) (queue : List ButtonCommand) : Sys :=
  { s with queue := queue, dequeued := s.sharedGeneration, taken := command :: s.taken }

def record (s : Sys) (drained : Bool) (commands : List ButtonCommand)
    (out : Option (List ButtonRuntimeEvent × ButtonState)) : Sys :=
  { s with
    handled := (commands.map fun command =>
      ⟨drained, command, s.dequeued, s.refreshed, s.sharedGeneration, s.state, out⟩) ++ s.handled }

def process (s : Sys) (command : ButtonCommand) : Sys :=
  let out := processCommand s.state command s.generation
  (s.record false [command] (some out)).emit out

/-- A settle pass puts events off: the state changes, the events join the deferred ones. -/
def defer (s : Sys) (out : List ButtonRuntimeEvent × ButtonState) (stage : Stage) (due : List PressToken)
    (deferred : List ButtonRuntimeEvent) (limit : Nat) : Sys :=
  { s with state := out.2, pc := .pass stage due (deferred ++ out.1) limit }

def settled (s : Sys) (out : List ButtonRuntimeEvent × ButtonState) (due : List PressToken)
    (deferred : List ButtonRuntimeEvent) (pc : Pc) : Sys :=
  { s with emitted := s.emitted ++ emitSettledEvents (deferred ++ out.1) due, state := out.2, pc := pc }

def workPass (s : Sys) (stage : Stage) (due : List PressToken) (deferred : List ButtonRuntimeEvent) (limit : Nat) :
    Sys :=
  match stage with
  | .processed =>
    if s.shutdown then s.settled (s.cancelAll .shutdown) due deferred .exited
    else s.goto (.pass .checked due deferred limit)
  | .checked => s.refresh.defer s.syncEvents .drain due deferred (limit - 1)
  | .drain =>
    if limit = 0 then s.goto (.pass .fire due deferred limit)
    else if s.shutdown then s.settled (s.cancelAll .shutdown) due deferred .exited
    else s.goto (.pass .sync due deferred limit)
  | .sync => s.refresh.defer s.syncEvents .recv due deferred limit
  | .recv =>
    match s.queue with
    | [] =>
      if s.disconnected then s.settled (s.cancelAll .sourceEnded) due deferred .exited
      else s.goto (.pass .fire due deferred limit)
    | command :: queue =>
      let out := processCommand s.state command s.generation
      ((s.take command queue).record true [command] (some out)).defer out .processed due deferred limit
  | .fire => s.settled (emitSelectedLongPresses s.state due s.clock) due deferred .top

def workSettleDue (s : Sys) (first : Option ButtonCommand) : Sys :=
  let due := s.state.dueLongPresses s.clock
  if due = [] then
    match first with
    | none => s.goto .top
    | some command => (s.process command).goto .top
  else
    match first with
    | none => s.goto (.pass .drain due [] eventQueueCapacity)
    | some command =>
      let out := processCommand s.state command s.generation
      (s.record false [command] (some out)).defer out .processed due [] eventQueueCapacity

/-- The worker's next access to shared state, or `none` while it waits for a command or once it has exited. -/
def work (s : Sys) : Option Sys :=
  match s.pc with
  | .start => some (s.refresh.goto .top)
  | .top => some (if s.shutdown then (s.emit (s.cancelAll .shutdown)).goto .exited else s.goto .receive)
  | .receive =>
    match s.queue with
    | [] => if s.disconnected then some ((s.emit (s.cancelAll .sourceEnded)).goto .exited) else none
    | command :: queue => some ((s.take command queue).goto (.received command))
  | .received command => some ((s.refresh.emit s.syncEvents).goto (.synced command))
  | .synced command =>
    some (if s.state.hasDueLongPress s.clock then s.goto (.settle (some command))
      else (s.process command).goto (.settle none))
  | .settle first =>
    some (if s.shutdown then ((s.record false first.toList none).emit (s.cancelAll .shutdown)).goto .exited
      else s.goto (.settleSync first))
  | .settleSync first => some ((s.refresh.emit s.syncEvents).goto (.settleDue first))
  | .settleDue first => some (s.workSettleDue first)
  | .pass stage due deferred limit => some (s.workPass stage due deferred limit)
  | .exited => none

end Sys

def step (s : Sys) : Ev → Option Sys
  | .tick elapsed => some { s with clock := s.clock + elapsed }
  | .call call => if s.disconnected then none else some (s.call call)
  | .send index =>
    match s.calls[index]? with
    | none => none
    | some command =>
      let s := { s with calls := s.calls.eraseIdx index }
      match s.pc with
      | .exited => some s
      | _ => some (s.trySend command)
  | .invalidate => if s.disconnected then none else some s.invalidateAll
  | .stopAccepting => some { s with accepting := false }
  | .requestShutdown => some ({ s with shutdown := true }.prepare .wake)
  | .disconnect => if s.calls = [] then some { s with disconnected := true } else none
  | .rehash rows =>
    if h : rows.Perm s.state.active.rows then some { s with state := ⟨s.state.active.rehash rows h⟩ } else none
  | .timeout =>
    match s.pc with
    | .receive => if s.state.nextDeadline.isSome then some (s.goto (.settle none)) else none
    | _ => none
  | .work => s.work

end Button
end OpenLogi
