import Mathlib.Logic.Function.Basic
/-!
# Reporting — the reporting state of a control

`0x1b04` as a session writes it: the reporting record of each control, the change `setCidReporting` makes to it, and
how a write may end.
-/
namespace OpenLogi
namespace Session

/-- What `getCidReporting` answers for a control. -/
structure CidReporting where
  cid : UInt16
  diverted : Bool
  persistentlyDiverted : Bool
  forceRawXy : Bool
  rawXy : Bool
  remap : Option UInt16
  analyticsKeyEvents : Bool
  rawWheel : Bool
  deriving DecidableEq

/-- A change of `setCidReporting`: every `none` leaves its setting. -/
structure CidReportingChange where
  diverted : Option Bool := none
  persistentlyDiverted : Option Bool := none
  forceRawXy : Option Bool := none
  rawXy : Option Bool := none
  remap : Option UInt16 := none
  analyticsKeyEvents : Option Bool := none
  rawWheel : Option Bool := none
  deriving DecidableEq

/-- What the firmware makes of a change.  A remap to 0 keeps the remap, and one to the control itself clears it. -/
def CidReportingChange.appliedTo (change : CidReportingChange) (r : CidReporting) : CidReporting :=
  { r with
    diverted := change.diverted.getD r.diverted
    persistentlyDiverted := change.persistentlyDiverted.getD r.persistentlyDiverted
    forceRawXy := change.forceRawXy.getD r.forceRawXy
    rawXy := change.rawXy.getD r.rawXy
    remap :=
      match change.remap with
      | none => r.remap
      | some cid => if cid = 0 then r.remap else if cid = r.cid then none else some cid
    analyticsKeyEvents := change.analyticsKeyEvents.getD r.analyticsKeyEvents
    rawWheel := change.rawWheel.getD r.rawWheel }

/-- One row of the control table. -/
structure CtrlIdInfo where
  cid : UInt16
  taskId : UInt16
  flags : UInt16
  deriving DecidableEq

def CtrlIdInfo.isDivertable (info : CtrlIdInfo) : Bool := info.flags &&& 0x20 ≠ 0

def CtrlIdInfo.supportsAnalyticsEvents (info : CtrlIdInfo) : Bool := info.flags &&& 0x400 ≠ 0

/-- How a write ends.  A failure does not prove that the firmware ignored it. -/
inductive WriteEnd where
  | acknowledged
  | failed (applied : Bool)
  deriving DecidableEq

def WriteEnd.applied : WriteEnd → Bool
  | .acknowledged => true
  | .failed applied => applied

def WriteEnd.isOk : WriteEnd → Bool
  | .acknowledged => true
  | .failed _ => false

/-- The reporting record of each control. -/
abbrev Firmware := UInt16 → CidReporting

namespace Firmware

/-- A `setCidReporting` that ends this way. -/
def write (fw : Firmware) (cid : UInt16) (change : CidReportingChange) (e : WriteEnd) : Firmware :=
  if e.applied then Function.update fw cid (change.appliedTo (fw cid)) else fw

theorem write_of_ne (fw : Firmware) {cid other : UInt16} (h : other ≠ cid) (change : CidReportingChange)
    (e : WriteEnd) : fw.write cid change e other = fw other := by
  unfold write
  split
  · exact Function.update_of_ne h _ _
  · rfl

/-- The diversion of a written control: as the change has it, or as it was. -/
theorem diverted_write (fw : Firmware) (cid : UInt16) (change : CidReportingChange) (e : WriteEnd) :
    (fw.write cid change e cid).diverted =
      if e.applied then change.diverted.getD (fw cid).diverted else (fw cid).diverted := by
  unfold write
  split
  · rw [Function.update_self]
    rfl
  · rfl

/-- A change that leaves diversion leaves it everywhere. -/
theorem diverted_write_none (fw : Firmware) (cid other : UInt16) {change : CidReportingChange}
    (h : change.diverted = none) (e : WriteEnd) :
    (fw.write cid change e other).diverted = (fw other).diverted := by
  by_cases heq : other = cid
  · rw [heq, diverted_write, h, Option.getD_none, ite_self]
  · rw [write_of_ne fw heq]

end Firmware

end Session
end OpenLogi
