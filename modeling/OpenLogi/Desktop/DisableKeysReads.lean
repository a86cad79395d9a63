import OpenLogi.Desktop.Load
import OpenLogi.Desktop.Reloads
/-!
# DisableKeysReads — the Disable Keys readings of the settings app, fenced by their connections

A subscription belongs to one route and has a generation of its own.  Whoever replaces what the cache holds discards the
fetches begun before.  `since` and `acked` are not in the code: when a snapshot was read or confirmed, and when the
agent last acknowledged the file that was adopted.
-/
namespace OpenLogi
namespace Desktop

open OpenLogi.Hid (DeviceRoute)

/-- A known key controlled by HID++ `0x4521 DisableKeys`. -/
inductive DisableKey where
  | capsLock
  | numLock
  | scrollLock
  | insert
  | windowsCommand
  deriving DecidableEq

namespace DisableKey

/-- Known keys in stable display order. -/
def all : List DisableKey := [.capsLock, .numLock, .scrollLock, .insert, .windowsCommand]

def mask : DisableKey → UInt8
  | .capsLock => (1 : UInt8) <<< 0
  | .numLock => (1 : UInt8) <<< 1
  | .scrollLock => (1 : UInt8) <<< 2
  | .insert => (1 : UInt8) <<< 3
  | .windowsCommand => (1 : UInt8) <<< 4

end DisableKey

structure DisableKeysState where
  supported : UInt8
  disabled : UInt8
  deriving DecidableEq

/-- `DisableKeysMask::contains`. -/
def maskContains (mask other : UInt8) : Bool := mask &&& other = other

/-- The known keys the keyboard disables, in their order. -/
def confirmedKnownSet (state : DisableKeysState) : List DisableKey :=
  DisableKey.all.filter fun key => maskContains state.supported key.mask && maskContains state.disabled key.mask

/-- Recoverable failure category. -/
inductive DisableKeysError where
  | agentUnavailable
  | connectionChanged
  | writeFailed
  | saveFailed
  | refreshFailed
  | reloadFailed
  deriving DecidableEq

/-- Whether hardware snapshots can describe the externally adopted file. -/
inductive ConfigReconciliation where
  | confirmed
  | required (error : DisableKeysError)
  | awaiting (context : ConfigReloadContext)
  deriving DecidableEq

structure Snapshot where
  state : DisableKeysState
  since : Nat
  deriving DecidableEq

/-- A fetch under way, with the epoch of the entry it was begun for. -/
structure Fetch where
  epoch : Nat
  since : Nat
  deriving DecidableEq

variable {E : Type}

/-- The entry of the cache for one keyboard. -/
structure Query (E : Type) where
  state : QueryState Snapshot E := {}
  epoch : Nat := 0
  fetches : List Fetch := []

namespace Query

/-- `client.set`: what it does to the error and to the fetch shown is the environment's. -/
def set (q : Query E) (data : Option Snapshot) : Query E :=
  { q with state := { q.state with data }, epoch := q.epoch + 1 }

/-- `client.invalidate`. -/
def invalidate (q : Query E) : Query E := { q with epoch := q.epoch + 1 }

def fetchBegins (q : Query E) (now : Nat) : Query E := { q with fetches := ⟨q.epoch, now⟩ :: q.fetches }

/-- A fetch is over, whatever becomes of its answer. -/
def without (q : Query E) (fetch : Fetch) : Query E := { q with fetches := q.fetches.erase fetch }

def answer (q : Query E) (since : Nat) : Except E DisableKeysState → Query E
  | .ok state => { q with state := ⟨some ⟨state, since⟩, none, false⟩ }
  | .error error => { q with state := { q.state with error := some error, isValidating := false } }

/-- A fetch ends: what was begun before the last `set` or `invalidate` is discarded. -/
def fetchEnds (q : Query E) (fetch : Fetch) (result : Except E DisableKeysState) : Query E :=
  if fetch.epoch = q.epoch then (q.without fetch).answer fetch.since result else q.without fetch

def stir (q : Query E) (error : Option E) (isValidating : Bool) : Query E :=
  { q with state := { q.state with error, isValidating } }

end Query

structure DisableKeysRead where
  route : DeviceRoute
  routeGeneration : Nat
  load : Load Snapshot

/-- One keyboard's row of the reads, of the retained snapshots and of the cache. -/
structure Row (E : Type) where
  read : Option DisableKeysRead := none
  confirmed : Option Snapshot := none
  query : Query E := {}

namespace Row

/-- The route and the generation of the active subscription. -/
def connection (row : Row E) : Option (DeviceRoute × Nat) :=
  row.read.map fun read => (read.route, read.routeGeneration)

/-- The active read, or else the retained snapshot. -/
def load (row : Row E) : Load Snapshot :=
  match row.read with
  | some read => read.load
  | none => row.confirmed.elim .unknown .ready

def clear (row : Row E) : Query E := (row.query.set none).invalidate

/-- `invalidate_snapshot`. -/
def invalidateSnapshot (row : Row E) : Row E :=
  { read := row.read.map fun read => { read with load := .loading }
    confirmed := none
    query := if row.read.isSome then row.clear else row.query }

/-- `remove`, the fence aside. -/
def remove (row : Row E) : Row E :=
  { row with read := none, query := if row.read.isSome then row.clear else row.query }

def setConfirmed (row : Row E) (state : DisableKeysState) (now : Nat) : Row E :=
  { read := row.read.map fun read => { read with load := .ready ⟨state, now⟩ }
    confirmed := some ⟨state, now⟩
    query := row.query.set (some ⟨state, now⟩) }

def subscribe [ReadError E] (row : Row E) (route : DeviceRoute) (routeGeneration : Nat) : Row E :=
  { row with read := some ⟨route, routeGeneration, projectLoad row.query.state⟩ }

def update (row : Row E) (routeGeneration : Nat) (load : Load Snapshot) : Row E :=
  match row.read with
  | some read =>
    if read.routeGeneration = routeGeneration then
      { row with
        read := some { read with load }
        confirmed := match load with
          | .ready snapshot => some snapshot
          | _ => row.confirmed }
    else row
  | none => row

/-- `retry`; the fetch it starts begins on its own. -/
def retry (row : Row E) : Row E :=
  { row with read := row.read.map fun read =>
      match read.load with
      | .ready _ => read
      | _ => { read with load := .loading } }

end Row

structure DisableKeysReads (E : Type) where
  nextGeneration : Nat := 0
  row : DeviceKey → Row E := fun _ => {}
  reconciliation : ConfigReconciliation := .confirmed
  nextReconciliationId : Nat := 0
  acked : Nat := 0

namespace DisableKeysReads

def change (r : DisableKeysReads E) (key : DeviceKey) (f : Row E → Row E) : DisableKeysReads E :=
  { r with row := Function.update r.row key (f (r.row key)) }

def load (r : DisableKeysReads E) (key : DeviceKey) : Load Snapshot := (r.row key).load

/-- Generation of the active subscription. -/
def generation (r : DisableKeysReads E) (key : DeviceKey) : Option Nat := (r.row key).read.map (·.routeGeneration)

def invalidateSnapshot (r : DisableKeysReads E) (key : DeviceKey) : DisableKeysReads E :=
  r.change key Row.invalidateSnapshot

def revalidateDeviceSettings (r : DisableKeysReads E) (key : DeviceKey) : DisableKeysReads E :=
  r.invalidateSnapshot key

def reconcileAfterWrite (r : DisableKeysReads E) (key : DeviceKey) : DisableKeysReads E :=
  r.invalidateSnapshot key

/-- A keyboard that is neither read nor retained has nothing to clear. -/
def invalidateAllSnapshots (r : DisableKeysReads E) : DisableKeysReads E :=
  { r with row := fun key => (r.row key).invalidateSnapshot }

def reconcileExternalConfig (r : DisableKeysReads E) : DisableKeysReads E :=
  { r with reconciliation := .required .refreshFailed }.invalidateAllSnapshots

def externalConfigRefreshed (r : DisableKeysReads E) : DisableKeysReads E :=
  { r with reconciliation := .required .reloadFailed }

def nextConfigReload (r : DisableKeysReads E) : Nat × DisableKeysReads E :=
  (r.nextReconciliationId, { r with nextReconciliationId := r.nextReconciliationId + 1 })

/-- The latest save supersedes any older confirmation of the adopted file. -/
def trackConfigReload (r : DisableKeysReads E) (context : ConfigReloadContext) : DisableKeysReads E :=
  if r.reconciliation ≠ .confirmed then { r with reconciliation := .awaiting context } else r

def configReloadMatches (r : DisableKeysReads E) (context : ConfigReloadContext) : Bool :=
  r.reconciliation = .awaiting context

/-- Only reads started after this matching receipt can enable writes. -/
def confirmConfigReload (r : DisableKeysReads E) (context : ConfigReloadContext) (now : Nat) : DisableKeysReads E :=
  if r.configReloadMatches context then
    { r with reconciliation := .confirmed, acked := now }.invalidateAllSnapshots
  else r

def failConfigReload (r : DisableKeysReads E) (context : ConfigReloadContext) (error : DisableKeysError) :
    DisableKeysReads E :=
  if r.configReloadMatches context then { r with reconciliation := .required error } else r

/-- The fence once the connection of `key` is dropped. -/
def detached (key : DeviceKey) : ConfigReconciliation → ConfigReconciliation
  | .awaiting (.disableKeys context) =>
    if context.key = key then .required .connectionChanged else .awaiting (.disableKeys context)
  | other => other

def remove (r : DisableKeysReads E) (key : DeviceKey) : DisableKeysReads E :=
  { r with reconciliation := detached key r.reconciliation }.change key Row.remove

/-- Start a query unless this exact route already has an active subscription. -/
def ensure [ReadError E] (r : DisableKeysReads E) (key : DeviceKey) (route : DeviceRoute) : DisableKeysReads E :=
  if (r.row key).read.any fun read => read.route = route then r
  else
    let r := r.remove key
    { r with nextGeneration := r.nextGeneration + 1 }.change key fun row => row.subscribe route r.nextGeneration

def retry (r : DisableKeysReads E) (key : DeviceKey) : DisableKeysReads E := r.change key Row.retry

def setConfirmed (r : DisableKeysReads E) (key : DeviceKey) (state : DisableKeysState) (now : Nat) :
    DisableKeysReads E :=
  r.change key fun row => row.setConfirmed state now

def update (r : DisableKeysReads E) (key : DeviceKey) (routeGeneration : Nat) (load : Load Snapshot) :
    DisableKeysReads E :=
  r.change key fun row => row.update routeGeneration load

/-- A keyboard whose row is dropped: it has one, and no card of the catalog is its. -/
def forgets (r : DisableKeysReads E) (present : DeviceKey → Bool) (key : DeviceKey) : Bool :=
  !present key && ((r.row key).read.isSome || (r.row key).confirmed.isSome)

/-- The fence once the rows of absent keyboards are dropped. -/
def retained (r : DisableKeysReads E) (present : DeviceKey → Bool) : ConfigReconciliation :=
  match r.reconciliation with
  | .awaiting (.disableKeys context) =>
    if r.forgets present context.key then .required .connectionChanged else r.reconciliation
  | other => other

/-- Forget devices no longer represented by any catalog record. -/
def retainPresent (r : DisableKeysReads E) (present : DeviceKey → Bool) : DisableKeysReads E :=
  { r with
    reconciliation := r.retained present
    row := fun key => if r.forgets present key then { (r.row key).remove with confirmed := none } else r.row key }

end DisableKeysReads

/-! ## Connections -/

namespace Row

variable (row : Row E)

@[simp] theorem connection_invalidateSnapshot : row.invalidateSnapshot.connection = row.connection := by
  rw [connection, connection, invalidateSnapshot, Option.map_map]
  rfl

@[simp] theorem connection_setConfirmed (state : DisableKeysState) (now : Nat) :
    (row.setConfirmed state now).connection = row.connection := by
  rw [connection, connection, setConfirmed, Option.map_map]
  rfl

@[simp] theorem connection_update (generation : Nat) (load : Load Snapshot) :
    (row.update generation load).connection = row.connection := by
  unfold update
  split
  · rename_i read hread
    split
    · rw [connection, connection, hread]
      rfl
    · rfl
  · rfl

@[simp] theorem connection_retry : row.retry.connection = row.connection := by
  rw [connection, connection, retry, Option.map_map]
  congr 1
  funext read
  rw [Function.comp]
  split <;> rfl

end Row

namespace DisableKeysReads

theorem row_change (r : DisableKeysReads E) (key k : DeviceKey) (f : Row E → Row E) :
    (r.change key f).row k = if k = key then f (r.row key) else r.row k := by
  by_cases hk : k = key
  · subst hk
    rw [if_pos rfl]
    exact Function.update_self k _ r.row
  · rw [if_neg hk]
    exact Function.update_of_ne hk _ r.row

end DisableKeysReads

/-! ## What is shown is fresh -/

namespace Row

/-- Nothing older than the last acknowledgement is shown, retained, cached or on its way. -/
structure Fresh (row : Row E) (acked : Nat) : Prop where
  shown : ∀ read snapshot, row.read = some read → read.load = .ready snapshot → acked ≤ snapshot.since
  retained : ∀ snapshot, row.confirmed = some snapshot → acked ≤ snapshot.since
  cached : ∀ snapshot, row.query.state.data = some snapshot → acked ≤ snapshot.since
  begun : ∀ fetch ∈ row.query.fetches, fetch.epoch ≤ row.query.epoch
  fetching : ∀ fetch ∈ row.query.fetches, fetch.epoch = row.query.epoch → acked ≤ fetch.since
  detached : row.read = none →
    row.query.state.data = none ∧ ∀ fetch ∈ row.query.fetches, fetch.epoch ≠ row.query.epoch

variable {row : Row E} {acked : Nat}

theorem Fresh.load (h : row.Fresh acked) {snapshot : Snapshot} (hload : row.load = .ready snapshot) :
    acked ≤ snapshot.since := by
  unfold Row.load at hload
  split at hload
  · exact h.shown _ snapshot ‹_› hload
  · cases hc : row.confirmed with
    | none =>
      rw [hc] at hload
      cases hload
    | some held =>
      rw [hc] at hload
      cases hload
      exact h.retained _ hc

theorem fresh_default (acked : Nat) : ({} : Row E).Fresh acked where
  shown _ _ h := nomatch h
  retained _ h := nomatch h
  cached _ h := nomatch h
  begun _ h := nomatch h
  fetching _ h := nomatch h
  detached _ := ⟨rfl, fun _ h => nomatch h⟩

/-- What the query of a row holds once its snapshot is gone: nothing shown, and nothing on its way. -/
theorem Fresh.cleared (h : row.Fresh acked) :
    let query := if row.read.isSome then row.clear else row.query
    query.state.data = none ∧ ∀ fetch ∈ query.fetches, fetch.epoch ≤ query.epoch ∧ fetch.epoch ≠ query.epoch := by
  intro query
  cases hread : row.read with
  | none =>
    have hquery : query = row.query := by simp only [query, hread, Option.isSome_none, Bool.false_eq_true, if_false]
    rw [hquery]
    exact ⟨(h.detached hread).1, fun fetch hf => ⟨h.begun fetch hf, (h.detached hread).2 fetch hf⟩⟩
  | some read =>
    have hquery : query = row.clear := by simp only [query, hread, Option.isSome_some, if_true]
    rw [hquery]
    refine ⟨rfl, fun fetch hf => ?_⟩
    have hle : fetch.epoch ≤ row.query.epoch := h.begun fetch hf
    have hepoch : row.clear.epoch = row.query.epoch + 1 + 1 := rfl
    rw [hepoch]
    exact ⟨by omega, by omega⟩

/-- A cleared row is fresh whatever was acknowledged since. -/
theorem Fresh.invalidateSnapshot (h : row.Fresh acked) (now : Nat) : row.invalidateSnapshot.Fresh now := by
  obtain ⟨hdata, hfetches⟩ := h.cleared
  refine ⟨fun read snapshot hread hload => ?_, fun _ hc => (nomatch hc), fun snapshot hc => ?_,
    fun fetch hf => (hfetches fetch hf).1, fun fetch hf he => absurd he (hfetches fetch hf).2,
    fun _ => ⟨hdata, fun fetch hf => (hfetches fetch hf).2⟩⟩
  · obtain ⟨old, -, rfl⟩ := Option.map_eq_some_iff.1 hread
    cases hload
  · exact nomatch hdata.symm.trans hc

theorem Fresh.remove (h : row.Fresh acked) : row.remove.Fresh acked := by
  obtain ⟨hdata, hfetches⟩ := h.cleared
  exact ⟨fun _ _ hread => (nomatch hread), h.retained, fun snapshot hc => (nomatch hdata.symm.trans hc),
    fun fetch hf => (hfetches fetch hf).1, fun fetch hf he => absurd he (hfetches fetch hf).2,
    fun _ => ⟨hdata, fun fetch hf => (hfetches fetch hf).2⟩⟩

theorem Fresh.forget (h : row.Fresh acked) : Fresh { row with confirmed := none } acked :=
  ⟨h.shown, fun _ hc => (nomatch hc), h.cached, h.begun, h.fetching, h.detached⟩

theorem Fresh.subscribe [ReadError E] (h : row.Fresh acked) (route : DeviceRoute) (generation : Nat) :
    (row.subscribe route generation).Fresh acked := by
  refine ⟨fun read snapshot hread hload => ?_, h.retained, h.cached, h.begun, h.fetching, fun hread => nomatch hread⟩
  obtain rfl := Option.some.inj hread
  exact h.cached snapshot (data_of_ready hload)

theorem Fresh.setConfirmed (h : row.Fresh acked) (hread : row.read.isSome) {now : Nat} (hnow : acked ≤ now)
    (state : DisableKeysState) : (row.setConfirmed state now).Fresh acked := by
  refine ⟨fun read snapshot hr hload => ?_, fun snapshot hc => ?_, fun snapshot hc => ?_, fun fetch hf => ?_,
    fun fetch hf he => ?_, fun hr => ?_⟩
  · obtain ⟨old, -, rfl⟩ := Option.map_eq_some_iff.1 hr
    cases hload
    exact hnow
  · cases hc
    exact hnow
  · cases hc
    exact hnow
  · exact Nat.le_succ_of_le (h.begun fetch hf)
  · have hle : fetch.epoch ≤ row.query.epoch := h.begun fetch hf
    have hepoch : fetch.epoch = row.query.epoch + 1 := he
    omega
  · rw [Row.setConfirmed, Option.map_eq_none_iff] at hr
    rw [hr] at hread
    cases hread

/-- An observation of the query, whoever it was made for, shows what the query holds. -/
theorem Fresh.update [ReadError E] (h : row.Fresh acked) (generation : Nat) :
    (row.update generation (projectLoad row.query.state)).Fresh acked := by
  unfold Row.update
  split
  · split
    · refine ⟨fun read snapshot hread hload => ?_, fun snapshot hc => ?_, h.cached, h.begun, h.fetching,
        fun hread => nomatch hread⟩
      · obtain rfl := Option.some.inj hread
        exact h.cached snapshot (data_of_ready hload)
      · cases hload : projectLoad row.query.state with
        | ready held =>
          rw [hload] at hc
          obtain rfl := Option.some.inj hc
          exact h.cached held (data_of_ready hload)
        | unknown | loading | failed _ | unsupported _ =>
          rw [hload] at hc
          exact h.retained snapshot hc
    · exact h
  · exact h

theorem Fresh.retry (h : row.Fresh acked) : row.retry.Fresh acked := by
  refine ⟨fun read snapshot hread hload => ?_, h.retained, h.cached, h.begun, h.fetching, fun hread => ?_⟩
  · obtain ⟨old, hold, rfl⟩ := Option.map_eq_some_iff.1 hread
    split at hload
    · exact h.shown old snapshot hold hload
    · cases hload
  · exact h.detached (Option.map_eq_none_iff.1 hread)

theorem Fresh.fetchBegins (h : row.Fresh acked) (hread : row.read.isSome) {now : Nat} (hnow : acked ≤ now) :
    Fresh { row with query := row.query.fetchBegins now } acked := by
  refine ⟨h.shown, h.retained, h.cached, fun fetch hf => ?_, fun fetch hf he => ?_, fun hr => ?_⟩
  · rcases List.mem_cons.1 hf with rfl | hf
    · exact Nat.le_refl _
    · exact h.begun fetch hf
  · rcases List.mem_cons.1 hf with rfl | hf
    · exact hnow
    · exact h.fetching fetch hf he
  · rw [hr] at hread
    cases hread

theorem Fresh.fetchEnds (h : row.Fresh acked) {fetch : Fetch} (hfetch : fetch ∈ row.query.fetches)
    (result : Except E DisableKeysState) : Fresh { row with query := row.query.fetchEnds fetch result } acked := by
  have hrest : ∀ other ∈ (row.query.without fetch).fetches, other ∈ row.query.fetches := fun _ => List.mem_of_mem_erase
  have hold : Fresh { row with query := row.query.without fetch } acked :=
    ⟨h.shown, h.retained, h.cached, fun other ho => h.begun other (hrest other ho),
      fun other ho => h.fetching other (hrest other ho),
      fun hr => ⟨(h.detached hr).1, fun other ho => (h.detached hr).2 other (hrest other ho)⟩⟩
  by_cases hepoch : fetch.epoch = row.query.epoch
  · rw [Query.fetchEnds, if_pos hepoch]
    cases result with
    | ok state =>
      refine ⟨hold.shown, hold.retained, fun snapshot hc => ?_, hold.begun, hold.fetching, fun hr => ?_⟩
      · cases hc
        exact h.fetching fetch hfetch hepoch
      · exact absurd hepoch ((h.detached hr).2 fetch hfetch)
    | error error => exact ⟨hold.shown, hold.retained, hold.cached, hold.begun, hold.fetching, hold.detached⟩
  · rw [Query.fetchEnds, if_neg hepoch]
    exact hold

theorem Fresh.stir (h : row.Fresh acked) (error : Option E) (isValidating : Bool) :
    Fresh { row with query := row.query.stir error isValidating } acked :=
  ⟨h.shown, h.retained, h.cached, h.begun, h.fetching, h.detached⟩

end Row

end Desktop
end OpenLogi
