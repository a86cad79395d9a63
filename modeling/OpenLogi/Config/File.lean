import OpenLogi.Lib.Run
/-!
# File — saving `config.toml` beside other writers

A writer loads the file, edits what it loaded and saves it.  A save takes the lock beside the file, compares the file
with the text it was loaded from, keeps the text an older schema wrote, renders, backs up once in a process, and
replaces the file.  Every step of a save is an event of its own, and every one of them may fail.  Symbolic links stay
as they are, so all writers of a path reach one file.
-/
namespace OpenLogi
namespace Config

def SCHEMA_VERSION : Nat := 11

def CONFIG_BACKUP_GENERATIONS : Nat := 5

/-- A configuration: the schema it declares, and everything else. -/
structure Document (C : Type) where
  schemaVersion : Nat
  rest : C

/-- What the TOML libraries make of a text, and the passes over what they decode. -/
structure Toml (C : Type) where
  header : String → Option Nat
  hasObsoleteField : String → Nat → Bool
  decode : String → Option C
  migrateOwnerLockedGestures : C → C
  migrateTransportScopedKeys : C → C
  migrateThumbwheelNativeDirection : C → C
  repairDuplicateRoutes : C → C
  undefinedAppAlias : C → Bool
  default : C
  /-- The text of a configuration, with the comments and the layout of the text it was loaded from. -/
  render : Document C → Option String → Option String

inductive ConfigError where
  | read
  | parse
  | obsoleteField
  | conflict
  | write
  | serialize
  | unsupportedSchemaVersion
  | undefinedAppAlias
  deriving DecidableEq

variable {C : Type}

/-- The migrations that a file of `version` needs. -/
def Toml.migrate (toml : Toml C) (version : Nat) (config : C) : C :=
  let config := if version ≤ 3 then toml.migrateOwnerLockedGestures config else config
  let config := if version ≤ 4 then toml.migrateTransportScopedKeys config else config
  if version ≤ 6 then toml.migrateThumbwheelNativeDirection config else config

def parseConfig (toml : Toml C) (source : String) : Except ConfigError (Document C × Nat) :=
  match toml.header source with
  | none => .error .parse
  | some version =>
    if version = 0 || SCHEMA_VERSION < version then .error .unsupportedSchemaVersion
    else if toml.hasObsoleteField source version then .error .obsoleteField
    else
      match toml.decode source with
      | none => .error .parse
      | some config =>
        let config := toml.repairDuplicateRoutes (toml.migrate version config)
        if toml.undefinedAppAlias config then .error .undefinedAppAlias
        else .ok (⟨SCHEMA_VERSION, config⟩, version)

/-- The text a file had when it was loaded or last saved, and the text that an older schema's backup is owed. -/
structure ConfigFile where
  source : Option String
  migratedFrom : Option (Nat × String)

def ConfigFile.loadFromPath (toml : Toml C) : Option String → Except ConfigError (Document C × ConfigFile)
  | some source =>
    match parseConfig toml source with
    | .error error => .error error
    | .ok (config, loadedVersion) =>
      let migratedFrom := if loadedVersion < SCHEMA_VERSION then some (loadedVersion, source) else none
      .ok (config, ⟨some source, migratedFrom⟩)
  | none => .ok (⟨SCHEMA_VERSION, toml.default⟩, ⟨none, none⟩)

/-- How a call ends; `late` is a write that took effect and reported a failure. -/
inductive Outcome where
  | ok
  | failed
  | late
  deriving DecidableEq

/-- Where a save has got to. -/
inductive Stage where
  | resolveSymlinks
  | createDir
  | openLock
  | tryLock
  | check
  | keepMigrated
  | render
  | backup (body : String)
  /-- The backups up to `generation` are still to be moved up. -/
  | rotate (body current : String) (generation : Nat)
  /-- The backup above `generation` was read. -/
  | shift (body current bytes : String) (generation : Nat)
  | commit (body : String)

/-- A writer: what it loaded, the save it is in, and how its last save ended. -/
structure Writer (C : Type) where
  loaded : Option (Document C × ConfigFile) := none
  stage : Option Stage := none
  result : Option (Except ConfigError Unit) := none

/-- The file, the backups beside it, its lock, and the processes that have backed it up. -/
structure Disk (W P : Type) where
  content : Option String
  migrationBackups : Nat → Option String
  configBackups : Nat → Option String
  lock : Option W := none
  backedUp : P → Bool := fun _ => false

variable {W P : Type} [DecidableEq W] [DecidableEq P]

/-- The end of a save, which lets go of its lock. -/
def finish (disk : Disk W P) (w : W) (writer : Writer C) (result : Except ConfigError Unit) : Disk W P × Writer C :=
  ({ disk with lock := if disk.lock = some w then none else disk.lock },
    { writer with stage := none, result := some result })

def Writer.goto (writer : Writer C) (stage : Stage) : Writer C := { writer with stage := some stage }

/-- An atomic write: what it leaves on the disk, and where the save goes on. -/
def writeAtomic (outcome : Outcome) (disk written : Disk W P) (w : W) (writer : Writer C) (next : Disk W P × Writer C) :
    Disk W P × Writer C :=
  match outcome with
  | .ok => next
  | .late => finish written w writer (.error .write)
  | .failed => finish disk w writer (.error .write)

/-- The next step of a save of `config` by `w` in the process `p`. -/
def advance (toml : Toml C) (w : W) (p : P) (outcome : Outcome) (disk : Disk W P) (writer : Writer C)
    (config : Document C) (file : ConfigFile) : Stage → Disk W P × Writer C
  | .resolveSymlinks =>
    if outcome = .ok then (disk, writer.goto .createDir) else finish disk w writer (.error .read)
  | .createDir => if outcome = .ok then (disk, writer.goto .openLock) else finish disk w writer (.error .write)
  | .openLock => if outcome = .ok then (disk, writer.goto .tryLock) else finish disk w writer (.error .write)
  | .tryLock =>
    if outcome = .ok && disk.lock.isNone then ({ disk with lock := some w }, writer.goto .check)
    else finish disk w writer (.error .write)
  | .check =>
    if outcome ≠ .ok then finish disk w writer (.error .read)
    else if disk.content ≠ file.source then finish disk w writer (.error .conflict)
    else (disk, writer.goto .keepMigrated)
  | .keepMigrated =>
    match file.migratedFrom with
    | none => (disk, writer.goto .render)
    | some (version, original) =>
      let written := { disk with
        migrationBackups := Function.update disk.migrationBackups version (some original) }
      writeAtomic outcome disk written w writer (written, writer.goto .render)
  | .render =>
    match toml.render config file.source with
    | none => finish disk w writer (.error .serialize)
    | some body => (disk, writer.goto (.backup body))
  | .backup body =>
    if disk.backedUp p then (disk, writer.goto (.commit body))
    else if outcome ≠ .ok then finish disk w writer (.error .write)
    else
      match disk.content with
      | some current => (disk, writer.goto (.rotate body current (CONFIG_BACKUP_GENERATIONS - 1)))
      | none => ({ disk with backedUp := Function.update disk.backedUp p true }, writer.goto (.commit body))
  | .rotate body current (generation + 1) =>
    if outcome ≠ .ok then finish disk w writer (.error .write)
    else
      match disk.configBackups (generation + 1) with
      | some bytes => (disk, writer.goto (.shift body current bytes generation))
      | none => (disk, writer.goto (.rotate body current generation))
  | .shift body current bytes generation =>
    let written := { disk with configBackups := Function.update disk.configBackups (generation + 2) (some bytes) }
    writeAtomic outcome disk written w writer (written, writer.goto (.rotate body current generation))
  | .rotate body current 0 =>
    let written := { disk with configBackups := Function.update disk.configBackups 1 (some current) }
    writeAtomic outcome disk written w writer
      ({ written with backedUp := Function.update disk.backedUp p true }, writer.goto (.commit body))
  | .commit body =>
    let written := { disk with content := some body }
    writeAtomic outcome disk written w writer
      (finish written w { writer with loaded := some (config, ⟨some body, none⟩) } (.ok ()))

structure Sys (W P C : Type) where
  disk : Disk W P
  writers : W → Writer C

inductive Event (W C : Type) where
  | load (w : W) (outcome : Outcome)
  | edit (w : W) (rest : C)
  | save (w : W)
  /-- The next step of a save, and how its call ends. -/
  | advance (w : W) (outcome : Outcome)

/-- One event; a writer that saves does nothing else. -/
def Sys.step (toml : Toml C) (process : W → P) (s : Sys W P C) : Event W C → Option (Sys W P C)
  | .load w outcome =>
    let writer := s.writers w
    if writer.stage.isSome then none
    else if outcome ≠ .ok then some s
    else
      match ConfigFile.loadFromPath toml s.disk.content with
      | .error _ => some s
      | .ok loaded => some { s with writers := Function.update s.writers w { writer with loaded := some loaded } }
  | .edit w rest =>
    let writer := s.writers w
    match writer.stage, writer.loaded with
    | none, some (config, file) =>
      some { s with
        writers := Function.update s.writers w { writer with loaded := some ({ config with rest := rest }, file) } }
    | _, _ => none
  | .save w =>
    let writer := s.writers w
    match writer.stage, writer.loaded with
    | none, some _ =>
      some { s with
        writers := Function.update s.writers w { writer with stage := some .resolveSymlinks, result := none } }
    | _, _ => none
  | .advance w outcome =>
    let writer := s.writers w
    match writer.stage, writer.loaded with
    | some stage, some (config, file) =>
      let (disk, writer) := Config.advance toml w (process w) outcome s.disk writer config file stage
      some { disk := disk, writers := Function.update s.writers w writer }
    | _, _ => none

/-- The writers of a file before anything was loaded. -/
def Sys.start (disk : Disk W P) : Sys W P C := ⟨disk, fun _ => {}⟩

end Config
end OpenLogi
