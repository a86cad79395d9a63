import OpenLogi.Lib.Watermark
import OpenLogi.Hid.Route
import Mathlib.Order.Lattice.Nat
/-!
# Queue — the per-route state of a write order

The intents of one route (`State`: the committed one, the saved policy, the pending RPCs, the recovery) and its turn
numbers (`Finished`), as each critical section of `write_order.rs` computes them.  The mutex a writer holds through its
I/O is not here: no operation below reads it.
-/
namespace OpenLogi
namespace WriteOrder

structure Intent (T : Type) where
  number : Nat
  value : T
  deriving DecidableEq

inductive Recovery where
  | none
  | requested
  | scheduled
  deriving DecidableEq

structure State (T : Type) where
  next : Nat := 0
  committed : Option (Intent T) := none
  policy : Option (Intent T) := none
  pending : Finset Nat := ∅
  recovery : Recovery := .none
  deriving DecidableEq

/-- Every ticket up to `through` is done, as are the later `early` ones. -/
structure Finished extends Lib.Watermark where
  issued : Nat
  deriving DecidableEq

/-! ## Turns -/

namespace Finished

def default : Finished := ⟨⟨0, ∅⟩, 0⟩

def reserve (f : Finished) : Nat × Finished := (f.issued + 1, { f with issued := f.issued + 1 })

/-- `finish` raises `through` over the adjoining early tickets, or notes an early one. -/
def finish (f : Finished) (number : Nat) : Finished := { f with toWatermark := f.toWatermark.mark number }

@[simp] theorem finish_issued (f : Finished) (number : Nat) : (f.finish number).issued = f.issued := rfl

@[simp] theorem finish_toWatermark (f : Finished) (number : Nat) :
    (f.finish number).toWatermark = f.toWatermark.mark number := rfl

def isTurnOf (f : Finished) (number : Nat) : Bool := decide (number ≤ f.through + 1)

end Finished

/-! ## Intents -/

namespace State

variable {T : Type}

/-- The next intent of the route. -/
def intent (s : State T) (value : T) : Intent T × State T :=
  (⟨s.next + 1, value⟩, { s with next := s.next + 1 })

def committedNumber (s : State T) : Nat :=
  match s.committed with
  | none => 0
  | some intent => intent.number

/-- The newest pending number or the committed one, whichever is newer. -/
def latest (s : State T) : Nat := max (s.pending.sup id) s.committedNumber

def isCurrent (s : State T) (number : Nat) : Bool := s.latest == number

/-- The ticket number of a request-ordered write. -/
def requestValue (s : State T) (value : T) : Nat × State T :=
  let (intent, s) := s.intent value
  (intent.number, { s with committed := some intent })

variable [DecidableEq T]

/-- Publish a changed policy, or acknowledge a matching confirmed RPC. -/
def syncPolicy (s : State T) (value : T) : Bool × State T :=
  if s.committed.any (fun intent => intent.value == value) then
    (false, { s with policy := s.committed })
  else if s.policy.any (fun policy => policy.value == value) then
    (false, s)
  else if s.policy.isNone then
    -- the baseline predates every interactive intent
    let intent : Intent T := ⟨0, value⟩
    (true, { s with committed := s.committed.or (some intent), policy := some intent })
  else
    let (intent, s) := s.intent value
    (true, { s with committed := some intent, policy := some intent, recovery := .none })

variable [Inhabited T]

def retire (s : State T) : State T :=
  let (intent, s) := s.intent Inhabited.default
  { s with committed := some intent, policy := some intent, recovery := .none }

omit [DecidableEq T] [Inhabited T]

/-- The value and ticket number a retry of the policy writes with. -/
def policyTicket (s : State T) : Option (T × Nat) :=
  (if s.recovery = .scheduled then s.committed else s.policy).map fun intent => (intent.value, intent.number)

def scheduleRecovery (s : State T) : Bool × State T :=
  if s.pending ≠ ∅ ∨ s.recovery ≠ .requested then (false, s) else (true, { s with recovery := .scheduled })

def finishRecovery (s : State T) : State T :=
  if s.recovery = .scheduled then { s with recovery := .none } else s

/-- The intent of a pending RPC. -/
def begin (s : State T) (value : T) : Intent T × State T :=
  let (intent, s) := s.intent value
  (intent, { s with pending := insert intent.number s.pending })

/-- The locked part of `PendingWrite::confirm`; the drop of the write follows. -/
def confirm (s : State T) (intent : Intent T) : Bool × State T :=
  if s.latest ≠ intent.number then (false, s)
  else (true, { s with committed := some intent, recovery := .none })

/-- `Drop for PendingWrite`: whether the write was abandoned, and the state without it. -/
def dropPending (s : State T) (intent : Intent T) : Bool × State T :=
  let s := { s with pending := s.pending.erase intent.number }
  if s.committed.all (fun accepted => accepted.number < intent.number) then
    (true, { s with recovery := .requested })
  else (false, s)

end State

end WriteOrder
end OpenLogi
