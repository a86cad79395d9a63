import OpenLogi.Desktop.DisableKeysReads
import OpenLogi.Desktop.Inventory
/-!
# DisableKeys — guarded Disable Keys writes, their persistence and their recovery

The handlers of the settings app on what a Disable Keys transaction reads and changes: the phase of each device, the
readings and their shared fence, the saved sets and the catalog.  What becomes of a save, of a load of the file and of a
request handed to the IPC worker is the event's to say (`World`); `Owed` is what the worker has yet to answer.
-/
namespace OpenLogi
namespace Desktop
namespace DisableKeys

open OpenLogi.Hid (DeviceRoute)

/-- Route-independent identity retained across disconnects during recovery. -/
structure DisableKeysRecoveryToken where
  key : DeviceKey
  transactionId : Nat
  deriving DecidableEq

def tokenOf (context : DisableKeysRequestContext) : DisableKeysRecoveryToken := ⟨context.key, context.requestId⟩

/-- Persistence phase for one device's confirmed Disable Keys transaction. -/
inductive DisableKeysPersistenceStatus where
  | idle
  | applying (context : DisableKeysRequestContext)
  | appliedNotSaved (recovery : DisableKeysRecoveryToken) (confirmed : DisableKeysState)
  | awaitingReload (context : DisableKeysRequestContext)
  | savedNotReloaded (context : DisableKeysRequestContext)
  | savedNotReloadedDetached (recovery : DisableKeysRecoveryToken)
  | reconcileRequired (recovery : DisableKeysRecoveryToken)
  | awaitingReconciliationReload (context : DisableKeysRequestContext)
  deriving DecidableEq

namespace DisableKeysPersistenceStatus

/-- The write a phase waits for. -/
def writing : DisableKeysPersistenceStatus → Option DisableKeysRequestContext
  | .applying context => some context
  | _ => none

/-- The reload a phase waits for. -/
def reloading : DisableKeysPersistenceStatus → Option DisableKeysRequestContext
  | .awaitingReload context | .awaitingReconciliationReload context => some context
  | _ => none

/-- The transaction a phase is one of. -/
def transaction : DisableKeysPersistenceStatus → Option DisableKeysRecoveryToken
  | .idle => none
  | .applying context | .awaitingReload context | .savedNotReloaded context
  | .awaitingReconciliationReload context => some (tokenOf context)
  | .appliedNotSaved recovery _ | .savedNotReloadedDetached recovery | .reconcileRequired recovery => some recovery

/-- What is left of a phase once the connection is lost. -/
def detached : DisableKeysPersistenceStatus → DisableKeysPersistenceStatus
  | .applying _ => .idle
  | .awaitingReload context | .savedNotReloaded context => .savedNotReloadedDetached (tokenOf context)
  | .awaitingReconciliationReload context => .reconcileRequired (tokenOf context)
  | status => status

end DisableKeysPersistenceStatus

inductive ReloadPurpose where
  | saved
  | reconciled

namespace ReloadPurpose

def awaiting (context : DisableKeysRequestContext) : ReloadPurpose → DisableKeysPersistenceStatus
  | .saved => .awaitingReload context
  | .reconciled => .awaitingReconciliationReload context

/-- The phase of a reload that did not happen. -/
def failed (context : DisableKeysRequestContext) : ReloadPurpose → DisableKeysPersistenceStatus
  | .saved => .savedNotReloaded context
  | .reconciled => .reconcileRequired (tokenOf context)

end ReloadPurpose

/-- What the reload of a phase is for. -/
def purposeOf : DisableKeysPersistenceStatus → ReloadPurpose
  | .awaitingReconciliationReload _ => .reconciled
  | _ => .saved

structure DisableKeysDeviceState where
  persistence : DisableKeysPersistenceStatus := .idle
  error : Option DisableKeysError := none

/-! ## The configuration -/

variable {Rev E : Type}

/-- The saved set of each device. -/
abbrev Settings := DeviceKey → Option (List DisableKey)

/-- An edit of other settings.  It may hand an entry to another key, but makes no set of its own. -/
structure OtherEdit where
  edit : Settings → Settings
  keeps : ∀ settings key set, edit settings key = some set → ∃ from', settings from' = some set

/-- Live configuration, persistence, and rollback state, with the revision of the tracked file. -/
structure LiveConfig (Rev : Type) where
  current : Settings
  persisted : Settings
  persistence : ConfigPersistence
  file : Rev

/-- How what an event asks of the outside ends: a save leaves the file at a revision or fails, a load of it yields
settings or fails, the IPC worker takes a request or is gone. -/
structure World (Rev : Type) where
  written : Option Rev
  file : Option (Settings × Rev)
  sends : Bool

namespace LiveConfig

def isWritable (c : LiveConfig Rev) : Bool := c.persistence ≠ .readOnly

def setDisabledKeys (c : LiveConfig Rev) (key : DeviceKey) (set : List DisableKey) : LiveConfig Rev :=
  { c with current := Function.update c.current key (some set) }

/-- `persist` and `persist_feature`, which differ in the notice they leave: a failed save puts the last one back. -/
def persist (c : LiveConfig Rev) (written : Option Rev) : Bool × LiveConfig Rev :=
  match c.persistence, written with
  | .userFile, some file => (true, { c with persisted := c.current, file })
  | .memoryOnly, _ => (true, { c with persisted := c.current })
  | .userFile, none | .readOnly, _ => (false, { c with current := c.persisted })

/-- `refresh_feature`. -/
def refresh (c : LiveConfig Rev) (file : Option (Settings × Rev)) : Option (LiveConfig Rev) :=
  match c.persistence with
  | .userFile => file.map fun (settings, revision) =>
      { c with current := settings, persisted := settings, file := revision }
  | .readOnly => none
  | .memoryOnly => some { c with current := c.persisted }

end LiveConfig

/-! ## The catalog -/

/-- A device of the catalog; `rest` is what else it shows. -/
structure Card where
  key : DeviceKey
  inventoryKey : String
  route : Option DeviceRoute
  online : Bool
  persistent : Bool
  supported : Bool
  settingsRevision : Nat
  rest : Nat
  deriving DecidableEq

/-- The list of cards.  A merge keeps one card to an inventory key, which is the device's own for all but cameras, so a
card with disabled keys shares its device with no other. -/
structure Catalog where
  cards : List Card
  own : ∀ a ∈ cards, ∀ b ∈ cards, a.supported → a.key = b.key → a = b

def Catalog.lists (c : Catalog) (key : DeviceKey) : Bool := c.cards.any fun card => card.key = key

/-- Devices that changed a setting themselves, on the route they were on. -/
def settingsMoved (old new : List Card) : List DeviceKey :=
  (new.filter fun card => old.any fun was =>
    was.key = card.key && was.route = card.route && was.settingsRevision ≠ card.settingsRevision).map (·.key)

/-- Devices whose route or presence changed. -/
def disableKeysInvalidated (old new : List Card) : List DeviceKey :=
  (new.filter fun card => old.any fun was =>
    was.key = card.key && (was.route ≠ card.route || was.online ≠ card.online)).map (·.key)

/-! ## The state -/

structure SetDisableKeys where
  context : DisableKeysRequestContext
  desired : UInt8

/-- What the IPC worker has yet to answer: writes and reloads, by device, and application-wide receipts. -/
structure Owed where
  writes : DeviceKey → List SetDisableKeys := fun _ => []
  reloads : DeviceKey → List DisableKeysRequestContext := fun _ => []
  receipts : List Nat := []

/-- What the app was told: the states the keyboards confirmed, the files it loaded; and the sets it saved. -/
structure History where
  answers : List (DeviceKey × DisableKeysState) := []
  files : List Settings := []
  saved : List (DeviceKey × List DisableKey) := []

/-- A set goes on record once its save went through. -/
def History.record (h : History) (landed : Bool) (row : DeviceKey × List DisableKey) : History :=
  { h with saved := if landed then row :: h.saved else h.saved }

structure AppState (Rev E : Type) where
  config : LiveConfig Rev
  records : Catalog
  selected : Option Nat := none
  session : DeviceKey → DisableKeysDeviceState := fun _ => {}
  reads : DisableKeysReads E := {}
  nextRequestId : Nat := 0
  owed : Owed := {}
  history : History := {}
  now : Nat := 0

def transactionFencesMatch (recordRoute : Option DeviceRoute) (activeGeneration : Option Nat)
    (activeRequest : Option DisableKeysRequestContext) (context : DisableKeysRequestContext) : Bool :=
  recordRoute = some context.route && activeGeneration = some context.routeGeneration && activeRequest = some context

def isReady {α : Type} : Load α → Bool
  | .ready _ => true
  | _ => false

namespace AppState

variable (s : AppState Rev E)

def record (key : DeviceKey) : Option Card := s.records.cards.find? fun card => card.key = key

def current : Option Card := s.selected.bind fun index => s.records.cards[index]?

def recordRoute (key : DeviceKey) : Option DeviceRoute := (s.record key).bind (·.route)

def status (key : DeviceKey) : DisableKeysPersistenceStatus := (s.session key).persistence

def setSession (key : DeviceKey) (persistence : DisableKeysPersistenceStatus) (error : Option DisableKeysError) :
    AppState Rev E :=
  { s with session := Function.update s.session key ⟨persistence, error⟩ }

def setError (key : DeviceKey) (error : Option DisableKeysError) : AppState Rev E :=
  s.setSession key (s.status key) error

def controlsEnabled (key : DeviceKey) : Bool :=
  s.reads.reconciliation = .confirmed && s.config.isWritable
    && (s.record key).any (fun record => record.online && record.persistent)
    && isReady (s.reads.load key) && s.status key = .idle

/-! ### Requests -/

def allocate (key : DeviceKey) : Option (DisableKeysRequestContext × AppState Rev E) := do
  let record ← (s.record key).filter (·.online)
  let route ← record.route
  let routeGeneration ← s.reads.generation key
  some (⟨key, route, routeGeneration, s.nextRequestId⟩, { s with nextRequestId := s.nextRequestId + 1 })

def oweWrite (request : SetDisableKeys) : AppState Rev E :=
  let key := request.context.key
  { s with owed := { s.owed with writes := Function.update s.owed.writes key (request :: s.owed.writes key) } }

def oweReload (context : DisableKeysRequestContext) : AppState Rev E :=
  { s with owed := { s.owed with
      reloads := Function.update s.owed.reloads context.key (context :: s.owed.reloads context.key) } }

def beginDisableKeysWrite (w : World Rev) (desired : UInt8) : AppState Rev E :=
  match s.current with
  | none => s
  | some card =>
    if s.controlsEnabled card.key then
      match s.allocate card.key with
      | none => s
      | some (context, s) =>
        if w.sends then (s.setSession card.key (.applying context) none).oweWrite ⟨context, desired⟩
        else s.setSession card.key .idle (some .agentUnavailable)
    else s

/-- Enter the awaiting phase only while the IPC worker can carry the request. -/
def requestDisableKeysReload (w : World Rev) (purpose : ReloadPurpose) (context : DisableKeysRequestContext) :
    AppState Rev E :=
  let s := s.setSession context.key (purpose.awaiting context) none
  let s := { s with reads := s.reads.trackConfigReload (.disableKeys context) }
  if w.sends then s.oweReload context
  else
    let s := { s with reads := s.reads.failConfigReload (.disableKeys context) .agentUnavailable }
    s.setSession context.key (purpose.failed context) (some .agentUnavailable)

/-- Put a confirmed set into the configuration and save it. -/
def saveDisabledKeys (w : World Rev) (key : DeviceKey) (known : List DisableKey) : Bool × AppState Rev E :=
  let (saved, config) := (s.config.setDisabledKeys key known).persist w.written
  (saved, { s with config, history := s.history.record saved (key, known) })

/-- What `apply_disable_keys_write_result` does with a state the keyboard confirmed. -/
def applyConfirmedWrite (w : World Rev) (context : DisableKeysRequestContext) (confirmed : DisableKeysState) :
    AppState Rev E :=
  let key := context.key
  let s := { s with
    reads := s.reads.setConfirmed key confirmed s.now
    history := { s.history with answers := (key, confirmed) :: s.history.answers } }
  match s.saveDisabledKeys w key (confirmedKnownSet confirmed) with
  | (true, s) => s.requestDisableKeysReload w .saved context
  | (false, s) => s.setSession key (.appliedNotSaved (tokenOf context) confirmed) (some .saveFailed)

def applyDisableKeysWriteResult (w : World Rev) (context : DisableKeysRequestContext)
    (result : Except E DisableKeysState) : AppState Rev E :=
  let key := context.key
  if transactionFencesMatch (s.recordRoute key) (s.reads.generation key) (s.status key).writing context then
    match result with
    | .error _ => { s with reads := s.reads.reconcileAfterWrite key }.setSession key .idle (some .writeFailed)
    | .ok confirmed => s.applyConfirmedWrite w context confirmed
  else s

/-! ### Adopting the file -/

/-- `AppState::reconcile_external_config`: whether the file could be loaded. -/
def reconcileExternalConfig (w : World Rev) : Bool × AppState Rev E :=
  match s.config.refresh w.file with
  | none => (false, { s with reads := s.reads.reconcileExternalConfig })
  | some config =>
    (true, { s with
      config
      reads := s.reads.reconcileExternalConfig.externalConfigRefreshed
      history := { s.history with files := config.current :: s.history.files } })

/-- A stopped IPC worker leaves the shared Reload Retry recovery available. -/
def sendConfigReload (w : World Rev) (receipt : Option Nat) : AppState Rev E :=
  if w.sends then { s with owed := { s.owed with receipts := receipt.toList ++ s.owed.receipts } }
  else
    match s.reads.reconciliation with
    | .awaiting context => { s with reads := s.reads.failConfigReload context .agentUnavailable }
    | _ => s

/-- Ask for an application-wide receipt, which is the latest. -/
def trackReceipt : Nat × AppState Rev E :=
  let (requestId, reads) := s.reads.nextConfigReload
  (requestId, { s with reads := reads.trackConfigReload (.reconciled requestId) })

/-- Adopt the external file and request acknowledgement of that exact revision. -/
def reconcileSavedConfig (w : World Rev) : AppState Rev E :=
  match s.reconcileExternalConfig w with
  | (false, s) => s
  | (true, s) =>
    let (requestId, s) := s.trackReceipt
    s.sendConfigReload w (some requestId)

/-- A later local save must not let an earlier receipt release the fence. -/
def trackExternalConfigReload : Option Nat × AppState Rev E :=
  if s.reads.reconciliation = .confirmed then (none, s)
  else
    let (requestId, s) := s.trackReceipt
    (some requestId, s)

/-- A save of other settings. -/
def persistConfig (w : World Rev) (edit : OtherEdit) : Bool × AppState Rev E :=
  let (saved, config) := { s.config with current := edit.edit s.config.current }.persist w.written
  (saved, { s with config })

def persistAndReload (w : World Rev) (edit : OtherEdit) : Bool × AppState Rev E :=
  match s.persistConfig w edit with
  | (false, s) => (false, s)
  | (true, s) =>
    let (receipt, s) := s.trackExternalConfigReload
    (true, s.sendConfigReload w receipt)

/-- Confirm a refreshed revision before accepting a reading; never persist the superseded choice here. -/
def reconcileDisableKeysConfig (w : World Rev) (recovery : DisableKeysRecoveryToken) : AppState Rev E :=
  match s.reconcileExternalConfig w with
  | (false, s) => s.setSession recovery.key (.reconcileRequired recovery) (some .refreshFailed)
  | (true, s) =>
    match s.allocate recovery.key with
    | none => s.setSession recovery.key (.reconcileRequired recovery) (s.session recovery.key).error
    | some (context, s) => s.requestDisableKeysReload w .reconciled context

/-! ### Verdicts -/

/-- What an accepted reload leaves of the readings. -/
def acceptReload (context : DisableKeysRequestContext) : DisableKeysReads E :=
  if s.reads.configReloadMatches (.disableKeys context) then
    s.reads.confirmConfigReload (.disableKeys context) s.now
  else
    match s.status context.key with
    -- a read begun while the file was refreshed may have preceded the reload
    | .awaitingReconciliationReload _ => s.reads.reconcileAfterWrite context.key
    | _ => s.reads

def applyDisableKeysReloadResult (w : World Rev) (context : DisableKeysRequestContext) (result : Verdict) :
    AppState Rev E :=
  let key := context.key
  if transactionFencesMatch (s.recordRoute key) (s.reads.generation key) (s.status key).reloading context then
    match result with
    | .ok .accepted => { s with reads := s.acceptReload context }.setSession key .idle none
    | .ok .fileChangedAfterSave => s.reconcileDisableKeysConfig w (tokenOf context)
    | .error _ =>
      { s with reads := s.reads.failConfigReload (.disableKeys context) .reloadFailed }.setSession key
        ((purposeOf (s.status key)).failed context) (some .reloadFailed)
  else s

/-- Deliver only the latest route-independent revision acknowledgement. -/
def applyReconciledConfigReloadResult (w : World Rev) (requestId : Nat) (result : Verdict) : AppState Rev E :=
  if s.reads.configReloadMatches (.reconciled requestId) then
    match result with
    | .ok .accepted => { s with reads := s.reads.confirmConfigReload (.reconciled requestId) s.now }
    | .ok .fileChangedAfterSave => s.reconcileSavedConfig w
    | .error _ => { s with reads := s.reads.failConfigReload (.reconciled requestId) .reloadFailed }
  else s

/-- The notice of a failed reload is not modelled. -/
def applySavedConfigReloadResult (w : World Rev) : Verdict → AppState Rev E
  | .ok .fileChangedAfterSave => s.reconcileSavedConfig w
  | .ok .accepted | .error _ => s

/-! ### Retries -/

def retryDisableKeysSave (w : World Rev) (key : DeviceKey) : AppState Rev E :=
  match s.status key with
  | .appliedNotSaved recovery confirmed =>
    match s.reconcileExternalConfig w with
    | (false, s) => s.setError key (some .refreshFailed)
    | (true, s) =>
      match s.saveDisabledKeys w recovery.key (confirmedKnownSet confirmed) with
      | (false, s) => s.setError key (some .saveFailed)
      | (true, s) =>
        match s.allocate key with
        | some (context, s) => s.requestDisableKeysReload w .saved context
        | none => s.setSession key (.savedNotReloadedDetached recovery) none
  | _ => s

/-- Ask for the reload of a saved set again, or keep it until the device is back. -/
def retrySavedReload (w : World Rev) (key : DeviceKey) (recovery : DisableKeysRecoveryToken) : AppState Rev E :=
  match s.allocate recovery.key with
  | none => s.setSession key (.savedNotReloadedDetached recovery) (s.session key).error
  | some (context, s) => s.requestDisableKeysReload w .saved context

def retryDisableKeysReload (w : World Rev) (key : DeviceKey) : AppState Rev E :=
  match s.status key with
  | .savedNotReloaded context => s.retrySavedReload w key (tokenOf context)
  | .savedNotReloadedDetached recovery => s.retrySavedReload w key recovery
  | .reconcileRequired recovery => s.reconcileDisableKeysConfig w recovery
  | .idle =>
    match s.reads.reconciliation with
    | .required _ => s.reconcileSavedConfig w
    | _ => s
  | _ => s

/-! ### The inventory -/

def invalidateDisableKeys (key : DeviceKey) : AppState Rev E :=
  { s with reads := s.reads.remove key }.setSession key (s.status key).detached
    (match s.status key with
    | .applying _ => some .connectionChanged
    | _ => (s.session key).error)

def revalidateDeviceSettings (key : DeviceKey) : AppState Rev E :=
  { s with reads := s.reads.revalidateDeviceSettings key }

/-- What a refresh does with a merged list once nothing is left to save. -/
def replaceRecords (merged : Catalog) : AppState Rev E :=
  if merged.cards = s.records.cards then s
  else
    let old := s.records.cards
    let index := ((s.current.map (·.inventoryKey)).bind fun key =>
      merged.cards.findIdx? fun card => card.inventoryKey = key).getD 0
    let s := { s with
      records := merged
      selected := if merged.cards = [] then none else some (min index (merged.cards.length - 1)) }
    let s := (settingsMoved old merged.cards).foldl revalidateDeviceSettings s
    let s := (disableKeysInvalidated old merged.cards).foldl invalidateDisableKeys s
    { s with reads := s.reads.retainPresent merged.lists }

end AppState

/-- What a refresh has to save: the routes it adopted, along with any identity, or identities alone. -/
inductive InventoryEdit where
  | adopted (edit : OtherEdit)
  | identified (edit : OtherEdit)
  | none

namespace AppState

variable (s : AppState Rev E)

/-- `merge_inventory_snapshot` keeps the sessions of the devices it lists. -/
def retainSessions (merged : Catalog) : AppState Rev E :=
  { s with session := fun key => if merged.lists key then s.session key else {} }

/-- `AppState::refresh_inventories`, given the list its snapshot merges into. -/
def refreshInventories (w : World Rev) (edit : InventoryEdit) (merged : Catalog) : AppState Rev E :=
  let s := s.retainSessions merged
  match edit with
  | .adopted edit =>
    match s.persistAndReload w edit with
    | (false, s) => s
    | (true, s) => s.replaceRecords merged
  | .identified edit => (s.persistConfig w edit).2.replaceRecords merged
  | .none => s.replaceRecords merged

/-- `DeviceStore::select`. -/
def select (index : Nat) : AppState Rev E :=
  if index < s.records.cards.length then { s with selected := some index } else s

def loadCurrentDisableKeys [ReadError E] : AppState Rev E :=
  match s.current with
  | some card =>
    match card.online && card.supported, card.route with
    | true, some route => { s with reads := s.reads.ensure card.key route }
    | _, _ => s
  | none => s

end AppState

/-! ## A run of the app -/

inductive Event (Rev E : Type) where
  | edit (w : World Rev) (desired : UInt8)
  | writeResult (w : World Rev) (context : DisableKeysRequestContext) (result : Except E DisableKeysState)
  | verdict (w : World Rev) (context : ConfigReloadContext) (result : Verdict)
  | retrySave (w : World Rev) (key : DeviceKey)
  | retryReload (w : World Rev) (key : DeviceKey)
  | retryRead (key : DeviceKey)
  /-- The agent saved a Flow peer into the file itself. -/
  | flowPaired (w : World Rev)
  | save (w : World Rev) (edit : OtherEdit)
  | refresh (w : World Rev) (edit : InventoryEdit) (merged : Catalog)
  | select (index : Nat)
  | load
  | fetchBegins (key : DeviceKey)
  | fetchEnds (key : DeviceKey) (fetch : Fetch) (result : Except E DisableKeysState)
  | stir (key : DeviceKey) (error : Option E) (isValidating : Bool)
  | observed (key : DeviceKey) (routeGeneration : Nat)

namespace AppState

variable (s : AppState Rev E)

/-- A write result comes once. -/
def heardWrite (context : DisableKeysRequestContext) : AppState Rev E :=
  { s with owed := { s.owed with
      writes := Function.update s.owed.writes context.key
        ((s.owed.writes context.key).filter fun request => request.context ≠ context) } }

def heardReload (context : DisableKeysRequestContext) : AppState Rev E :=
  { s with owed := { s.owed with
      reloads := Function.update s.owed.reloads context.key
        ((s.owed.reloads context.key).filter (· ≠ context)) } }

def heardReceipt (requestId : Nat) : AppState Rev E :=
  { s with owed := { s.owed with receipts := s.owed.receipts.filter (· ≠ requestId) } }

end AppState

namespace AppState

variable [ReadError E] (s : AppState Rev E)

def apply : Event Rev E → Option (AppState Rev E)
  | .edit w desired => some (s.beginDisableKeysWrite w desired)
  | .writeResult w context result =>
    if context ∈ (s.owed.writes context.key).map (·.context) then
      some ((s.heardWrite context).applyDisableKeysWriteResult w context result)
    else none
  | .verdict w .general result => some (s.applySavedConfigReloadResult w result)
  | .verdict w (.disableKeys context) result =>
    if context ∈ s.owed.reloads context.key then
      some ((s.heardReload context).applyDisableKeysReloadResult w context result)
    else none
  | .verdict w (.reconciled requestId) result =>
    if requestId ∈ s.owed.receipts then
      some ((s.heardReceipt requestId).applyReconciledConfigReloadResult w requestId result)
    else none
  | .retrySave w key => some (s.retryDisableKeysSave w key)
  | .retryReload w key => some (s.retryDisableKeysReload w key)
  | .retryRead key => some { s with reads := s.reads.retry key }
  | .flowPaired w => some (s.reconcileSavedConfig w)
  | .save w edit => some (s.persistAndReload w edit).2
  | .refresh w edit merged => some (s.refreshInventories w edit merged)
  | .select index => some (s.select index)
  | .load => some s.loadCurrentDisableKeys
  | .fetchBegins key =>
    if (s.reads.row key).read.isSome then
      some { s with reads := s.reads.change key fun row => { row with query := row.query.fetchBegins s.now } }
    else none
  | .fetchEnds key fetch result =>
    if fetch ∈ (s.reads.row key).query.fetches then
      some { s with reads := s.reads.change key fun row => { row with query := row.query.fetchEnds fetch result } }
    else none
  | .stir key error isValidating =>
    some { s with reads := s.reads.change key fun row => { row with query := row.query.stir error isValidating } }
  | .observed key routeGeneration =>
    some { s with reads := s.reads.update key routeGeneration (projectLoad (s.reads.row key).query.state) }

def step (e : Event Rev E) : Option (AppState Rev E) :=
  { s with now := s.now + 1 }.apply e

end AppState

/-- The app as it starts: no device yet but cameras. -/
def AppState.new (settings : Settings) (persistence : ConfigPersistence) (file : Rev) (cameras : Catalog) :
    AppState Rev E where
  config := ⟨settings, settings, persistence, file⟩
  records := cameras
  selected := if cameras.cards = [] then none else some 0
  history := { files := [settings] }

end DisableKeys
end Desktop
end OpenLogi
