import OpenLogi.Lib.Attempt
import OpenLogi.Session.Keys
import OpenLogi.Session.Reporting
/-!
# Divert — a keyboard session that follows its owner

The requests by which a keyboard session goes from the keys it has diverted to the keys its owner wants, one after the
other as `retarget` makes them.  A request that fails ends the retarget where it stands, and a failed write may have
been applied.
-/
namespace OpenLogi
namespace Session

open OpenLogi.Core Lib

/-! ## What the owner wants -/

structure GamingWanted where
  takeGRow : Bool := false
  modeKeys : ModeKey → Bool := fun _ => false

/-- Whether anything of the gaming cluster is wanted. -/
def GamingWanted.any (wanted : GamingWanted) : Bool :=
  wanted.takeGRow || [ModeKey.m1, .m2, .m3, .macroRecord].any wanted.modeKeys

structure KeyboardWanted where
  controls : ButtonMap UInt16 := ∅
  grid : ButtonMap UInt8 := ∅
  gaming : GamingWanted := {}

/-! ## The change -/

/-- The Easy-Switch host keys and the primary clicks of a built-in touchpad. -/
def reservedKeyboardControls : List UInt16 := [0x00d1, 0x00d2, 0x00d3, 0x0050, 0x0051]

def isReservedKeyboardControl (cid : UInt16) : Bool := reservedKeyboardControls.contains cid

/-- Whether a session may divert `cid` on a keyboard with this control table. -/
def canDivert (cid : UInt16) (table : List CtrlIdInfo) : Bool :=
  if isReservedKeyboardControl cid then false else table.any fun c => decide (c.cid = cid) && c.isDivertable

/-- The writes that take a session from the keys it has diverted to those wanted.  A key in both sets is kept. -/
structure DivertChange where
  handBack : List UInt16
  divert : List (UInt16 × ButtonId)
  keep : List (UInt16 × ButtonId)

def DivertChange.between (diverted wanted : ButtonMap UInt16) (table : List CtrlIdInfo) : DivertChange where
  handBack := diverted.keys.filter fun cid => decide (cid ∉ wanted)
  divert := wanted.toList.filter fun p => decide (p.1 ∉ diverted) && canDivert p.1 table
  keep := wanted.toList.filter fun p => decide (p.1 ∈ diverted)

/-! ## The session -/

/-- A control that may be diverted, with the reporting that was found. -/
structure ArmedReporting where
  cid : UInt16
  original : CidReporting
  deriving DecidableEq

def divertKeyboardKey (reporting : CidReporting) : CidReportingChange :=
  { diverted := some true, rawXy := none, remap := reporting.remap }

def undivertKeyboardKey (reporting : CidReporting) : CidReportingChange :=
  { diverted := some false, rawXy := none, remap := reporting.remap }

structure ArmedKeys where
  reporting : List ArmedReporting := []
  keys : DivertedKeys := ⟨∅, fun _ => false⟩
  grid : GridKeys := ⟨∅, fun _ => false⟩
  gaming : GamingKeys := ⟨⟨none, none, none⟩, false, fun _ => false, 0, fun _ => false, false⟩
  /-- The `0x8010` index while the G-key row may be taken. -/
  gRowTaken : Option UInt8 := none
  gamingLookedUp : Bool := false

/-- What a keyboard answers about itself: its control table, `none` without `0x1b04`. -/
structure KeyboardModel where
  controls : Option (List CtrlIdInfo)
  features : GamingFeatures
  gKeyCount : UInt8

def KeyboardModel.table (m : KeyboardModel) : List CtrlIdInfo := m.controls.getD []

/-- The controls and the row that a teardown hands back. -/
structure PendingCaptureRestore where
  reprog : List ArmedReporting
  gKeys : Option UInt8

def ArmedKeys.intoPending (armed : ArmedKeys) (m : KeyboardModel) : PendingCaptureRestore where
  reprog := if m.controls.isSome then armed.reporting else []
  gKeys := armed.gRowTaken

/-- A session and its keyboard. -/
structure KeySession where
  armed : ArmedKeys := {}
  fw : Firmware
  /-- The G-key row is taken from its onboard actions. -/
  gRow : Bool
  /-- The controls written so far, the last write first. -/
  writes : List UInt16 := []
  gRowWritten : Bool := false
  /-- How the requests to come end. -/
  ends : Nat → WriteEnd

namespace KeySession

/-- A request to the keyboard: `effect` is what it makes of it, by how it ends. -/
def request (effect : WriteEnd → KeySession → KeySession) : Attempt KeySession Unit := fun s =>
  let t := effect (s.ends 0) { s with ends := fun n => s.ends (n + 1) }
  ⟨[t], if (s.ends 0).isOk then some () else none, t⟩

def update (f : ArmedKeys → ArmedKeys) : Attempt KeySession Unit :=
  Attempt.modify fun s => { s with armed := f s.armed }

/-- A request that changes nothing of the keyboard. -/
def ask : Attempt KeySession Unit := request fun _ s => s

def getCidReporting (cid : UInt16) : Attempt KeySession CidReporting := do
  ask
  let s ← Attempt.get
  pure (s.fw cid)

def setCidReporting (cid : UInt16) (change : CidReportingChange) : Attempt KeySession Unit :=
  request fun e s => { s with fw := s.fw.write cid change e, writes := cid :: s.writes }

/-- `take_row` and `release_row`. -/
def setGRow (taken : Bool) : Attempt KeySession Unit :=
  request fun e s => { s with gRow := if e.applied then taken else s.gRow, gRowWritten := true }

/-! ## The gaming cluster -/

/-- The cluster's features are looked up the first time any of it is wanted. -/
def lookUpGaming (m : KeyboardModel) (wanted : GamingWanted) : Attempt KeySession Unit := do
  let s ← Attempt.get
  if wanted.any && !s.armed.gamingLookedUp then
    ask
    ask
    ask
    update fun armed => { armed with gaming := { armed.gaming with features := m.features } }
    update fun armed => { armed with gamingLookedUp := true }
  else pure ()

/-- Take the row of a keyboard whose column is modelled whole.  It is owed and dispatched before the write. -/
def takeGRow (m : KeyboardModel) (index : UInt8) (modeKeys : ModeKey → Bool) : Attempt KeySession Unit := do
  ask
  if GKey.all.length < m.gKeyCount.toNat then pure ()
  else
    update fun armed => { armed with gRowTaken := some index }
    update fun armed => { armed with gaming := armed.gaming.follow true modeKeys }
    setGRow true

/-- Hand the row back.  It is owed until the firmware has it. -/
def releaseGRow (modeKeys : ModeKey → Bool) : Attempt KeySession Unit := do
  update fun armed => { armed with gaming := armed.gaming.follow false modeKeys }
  setGRow false
  update fun armed => { armed with gRowTaken := none }

def followGaming (m : KeyboardModel) (wanted : GamingWanted) : Attempt KeySession Unit := do
  lookUpGaming m wanted
  let s ← Attempt.get
  match if wanted.takeGRow then s.armed.gaming.features.gKeys else none, s.armed.gRowTaken with
  | some index, none => takeGRow m index wanted.modeKeys
  | none, some _ => releaseGRow wanted.modeKeys
  | _, _ => pure ()
  update fun armed => { armed with gaming := armed.gaming.follow armed.gRowTaken.isSome wanted.modeKeys }

/-! ## The controls -/

/-- Hand a control back.  It is forgotten only once the firmware has it. -/
def handBack (cid : UInt16) : Attempt KeySession Unit := do
  let s ← Attempt.get
  match s.armed.reporting.find? fun r => r.cid = cid with
  | some r =>
    setCidReporting cid (undivertKeyboardKey r.original)
    update fun armed => { armed with reporting := armed.reporting.eraseP fun r => r.cid = cid }
  | none => pure ()
  update fun armed => { armed with keys := armed.keys.remove cid }

/-- Divert a control.  It is owed and dispatched before the write. -/
def divert (p : UInt16 × ButtonId) : Attempt KeySession Unit := do
  let original ← getCidReporting p.1
  update fun armed => { armed with reporting := armed.reporting ++ [⟨p.1, original⟩] }
  update fun armed => { armed with keys := { armed.keys with buttons := armed.keys.buttons.insert p.1 p.2 } }
  setCidReporting p.1 (divertKeyboardKey original)

/-- The buttons that kept controls dispatch as now. -/
def keepButtons (buttons : ButtonMap UInt16) (keep : List (UInt16 × ButtonId)) : ButtonMap UInt16 :=
  keep.foldl (fun buttons p => buttons.insert p.1 p.2) buttons

def applyChange (m : KeyboardModel) (change : DivertChange) : Attempt KeySession Unit :=
  if m.controls.isNone then pure ()
  else do
    Attempt.each handBack change.handBack
    Attempt.each divert change.divert
    update fun armed => { armed with keys := { armed.keys with buttons := keepButtons armed.keys.buttons change.keep } }

/-- Follow what the owner wants. -/
def retarget (m : KeyboardModel) (wanted : KeyboardWanted) : Attempt KeySession Unit := do
  update fun armed => { armed with grid := armed.grid.follow wanted.grid }
  followGaming m wanted.gaming
  let s ← Attempt.get
  applyChange m (DivertChange.between s.armed.keys.buttons wanted.controls m.table)

end KeySession

/-! ## Runs -/

/-- What the owner wants next, and how the requests of the retarget to it end. -/
structure Retarget where
  wanted : KeyboardWanted
  ends : Nat → WriteEnd

/-- A session over its retargets.  The first one arms it. -/
structure KeyRun where
  session : KeySession
  /-- Every state that the session has passed. -/
  passed : List KeySession := []
  /-- Its last retarget succeeded: a failed one ends the session. -/
  running : Bool := true
  /-- What was wanted before the last retarget, and what it was made to. -/
  previous : KeyboardWanted := {}
  wanted : KeyboardWanted := {}
  /-- The writes before the last retarget. -/
  before : List UInt16 := []

namespace KeyRun

/-- A session before it arms, on a keyboard found in this state. -/
def start (found : Firmware) (gRowFound : Bool) : KeyRun :=
  { session := { fw := found, gRow := gRowFound, ends := fun _ => .acknowledged } }

def step (m : KeyboardModel) (k : KeyRun) (r : Retarget) : Option KeyRun :=
  if k.running then
    let ran := KeySession.retarget m r.wanted { k.session with ends := r.ends }
    some
      { session := ran.state
        passed := ran.passed ++ k.passed
        running := ran.result.isSome
        previous := k.wanted
        wanted := r.wanted
        before := k.session.writes }
  else none

end KeyRun

end Session
end OpenLogi
