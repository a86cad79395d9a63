import Mathlib.Data.List.Basic
/-!
# Load — what the panel knows of a device read

A query of the cache holds a value, an error and whether a fetch is under way; `projectLoad` is what the panel shows of
it.  What the cache does to the last two is not in this repository, so they are the environment's to move.
-/
namespace OpenLogi
namespace Desktop

variable {α E : Type}

/-- The errors of a read: which of them are never retried, and the text of each. -/
class ReadError (E : Type) where
  isPermanent : E → Bool
  text : E → String

inductive Load (α : Type) where
  | unknown
  | loading
  | ready (value : α)
  | failed (error : String)
  | unsupported (error : String)
  deriving DecidableEq

structure QueryState (α E : Type) where
  data : Option α := none
  error : Option E := none
  isValidating : Bool := false

def projectError [ReadError E] (error : E) : Load α :=
  if ReadError.isPermanent error then .unsupported (ReadError.text error) else .failed (ReadError.text error)

def projectLoad [ReadError E] (state : QueryState α E) : Load α :=
  if state.isValidating && state.data.isNone then .loading
  else match state.isValidating, state.error with
    | false, some error => projectError error
    | _, _ =>
      match state.data with
      | some value => .ready value
      | none => .unknown

/-- A load that is ready shows the value of the query. -/
theorem data_of_ready [ReadError E] {state : QueryState α E} {value : α} (h : projectLoad state = .ready value) :
    state.data = some value := by
  unfold projectLoad projectError at h
  split at h
  · cases h
  split at h
  · split at h <;> cases h
  · split at h
    · rename_i hdata
      cases h
      exact hdata
    · cases h

end Desktop
end OpenLogi
