import Std.Data.ExtTreeMap
import Std.Data.ExtTreeMap.Lemmas
import OpenLogi.Session.Input
/-!
# Keys — what a keyboard capture session holds

The three structures the read thread of a keyboard session diffs its reports against: the diverted `0x1b04` controls,
the grid keys of a keypad, and the gaming cluster.  The power cycle of a wireless keyboard reaches the last of them
only.
-/
namespace OpenLogi
namespace Session

open OpenLogi.Core

/-- `BTreeMap` of the buttons that controls or grid keys dispatch as. -/
abbrev ButtonMap (κ : Type) [Ord κ] := Std.ExtTreeMap κ ButtonId compare

/-- `ButtonId::g_key`: the M1 slot of a physical G-key. -/
def gKeyButton (key : GKey) : ButtonId := .gKey ⟨.m1, key⟩

/-! ## Diverted controls -/

/-- The keys a session dispatches, and which of them are held. -/
structure DivertedKeys where
  buttons : ButtonMap UInt16
  held : UInt16 → Bool

namespace DivertedKeys

/-- A snapshot of the controls held, diffed into one edge a transition. -/
def report (keys : DivertedKeys) (cids : List UInt16) : List CapturedInput × DivertedKeys :=
  (keys.buttons.toList.flatMap fun p => edge (keys.held p.1) (decide (p.1 ∈ cids)) p.2,
    { keys with held := fun cid => if cid ∈ keys.buttons then decide (cid ∈ cids) else keys.held cid })

/-- Stop dispatching `cid`; a press still held gets no release edge. -/
def remove (keys : DivertedKeys) (cid : UInt16) : DivertedKeys where
  buttons := keys.buttons.erase cid
  held := Function.update keys.held cid false

def anyHeld (keys : DivertedKeys) : Bool := keys.buttons.toList.any fun p => keys.held p.1

end DivertedKeys

/-! ## Grid keys -/

structure GridKeys where
  buttons : ButtonMap UInt8
  held : UInt8 → Bool

/-- The ids that a vendor frame reports held: `13 ff 02 00 [seq] 01 [id, …]`, its payload ended by a zero. -/
def gridKeyFrame : List UInt8 → Option (List UInt8)
  | 0x13 :: 0xff :: 0x02 :: 0x00 :: _ :: 0x01 :: ids => if ids.isEmpty then none else some (ids.takeWhile (· ≠ 0))
  | _ => none

namespace GridKeys

/-- The bound keys a frame names are held, the others are not; the releases go first. -/
def report (grid : GridKeys) (bytes : List UInt8) : List CapturedInput × GridKeys :=
  match gridKeyFrame bytes with
  | none => ([], grid)
  | some ids =>
    let held := fun index => decide (index ∈ grid.buttons) && decide (index ∈ ids)
    (((grid.buttons.toList.filter fun p => grid.held p.1 && !held p.1).map fun p => .buttonUp p.2) ++
      ((grid.buttons.toList.filter fun p => held p.1 && !grid.held p.1).map fun p => .buttonDown p.2),
      { grid with held })

/-- Dispatch `wanted` from now on. -/
def follow (grid : GridKeys) (wanted : ButtonMap UInt8) : GridKeys where
  buttons := wanted
  held := fun index => grid.held index && decide (index ∈ wanted)

def anyHeld (grid : GridKeys) : Bool := grid.buttons.toList.any fun p => grid.held p.1

end GridKeys

/-! ## The gaming cluster -/

def GKey.all : List GKey := [.g1, .g2, .g3, .g4, .g5]

/-- The bit of a G-key in a `0x8010` state report. -/
def gKeyBit : GKey → Nat
  | .g1 => 0
  | .g2 => 1
  | .g3 => 2
  | .g4 => 3
  | .g5 => 4

/-- The M-keys and their bits in a `0x8020` state report. -/
def mKeyBits : List (ModeKey × Nat) := [(.m1, 0), (.m2, 1), (.m3, 2)]

/-- Where the cluster's features sit in the feature table. -/
structure GamingFeatures where
  gKeys : Option UInt8
  mKeys : Option UInt8
  macroRecord : Option UInt8
  deriving DecidableEq

/-- The cluster's keys a session reports, and which are held.  `mHeld` is of M1 to M3. -/
structure GamingKeys where
  features : GamingFeatures
  gRow : Bool
  modeKeys : ModeKey → Bool
  gHeld : BitVec 32
  mHeld : ModeKey → Bool
  mrHeld : Bool

namespace GamingKeys

/-- Of a G-key report, the bits past the row are kept. -/
def onGKeys (keys : GamingKeys) (held : BitVec 32) : List CapturedInput × GamingKeys :=
  let held := if keys.gRow then held else 0
  (GKey.all.flatMap fun key =>
    edge (keys.gHeld.getLsbD (gKeyBit key)) (held.getLsbD (gKeyBit key)) (gKeyButton key),
    { keys with gHeld := held })

/-- What an M-key report shows of a key that is dispatched. -/
def mNow (keys : GamingKeys) (held : BitVec 8) (p : ModeKey × Nat) : Bool := held.getLsbD p.2 && keys.modeKeys p.1

def onMKeys (keys : GamingKeys) (held : BitVec 8) : List CapturedInput × GamingKeys :=
  (mKeyBits.flatMap fun p => edge (keys.mHeld p.1) (keys.mNow held p) (.modeKey p.1),
    { keys with mHeld := mKeyBits.foldl (fun m p => Function.update m p.1 (keys.mNow held p)) keys.mHeld })

def onMacroRecord (keys : GamingKeys) (held : Bool) : List CapturedInput × GamingKeys :=
  let now := held && keys.modeKeys .macroRecord
  (edge keys.mrHeld now (.modeKey .macroRecord), { keys with mrHeld := now })

/-- Report `wanted`'s keys from now on. -/
def follow (keys : GamingKeys) (gRow : Bool) (wanted : ModeKey → Bool) : GamingKeys :=
  { keys with
    gRow
    gHeld := if gRow then keys.gHeld else 0
    modeKeys := wanted
    mHeld := fun key => keys.mHeld key && wanted key
    mrHeld := keys.mrHeld && wanted .macroRecord }

/-- Whether a power cycle is reported. -/
def interrupts (keys : GamingKeys) : Bool :=
  decide (keys.gHeld ≠ 0) || mKeyBits.any (fun p => keys.mHeld p.1) || keys.mrHeld || keys.gRow

/-- Forget every held key after a power cycle.  A taken row is reported even with nothing held. -/
def interrupt (keys : GamingKeys) : List CapturedInput × GamingKeys :=
  (if keys.interrupts then [.interrupted] else [],
    { keys with gHeld := 0, mHeld := fun _ => false, mrHeld := false })

end GamingKeys

/-! ## The session -/

/-- The state that the reports of a keyboard session are diffed against. -/
structure KeyboardSession where
  keys : DivertedKeys
  grid : GridKeys
  gaming : GamingKeys

inductive KeyboardReport where
  | divertedButtons (cids : List UInt16)
  | vendor (bytes : List UInt8)
  | gKeys (held : BitVec 32)
  | mKeys (held : BitVec 8)
  | macroRecord (held : Bool)
  /-- The keyboard reconnects: `reset_input_state`. -/
  | reconnect
  deriving DecidableEq

namespace KeyboardSession

/-- One report or reconnect of a keyboard. -/
def turn (s : KeyboardSession) : KeyboardReport → Turn × KeyboardSession
  | .divertedButtons cids =>
    let (sent, keys) := s.keys.report cids
    (⟨false, (s.keys.buttons.toList.filter fun p => p.1 ∈ cids).map Prod.snd, sent⟩, { s with keys })
  | .vendor bytes =>
    let (sent, grid) := s.grid.report bytes
    (⟨false, (s.grid.buttons.toList.filter fun p => p.1 ∈ (gridKeyFrame bytes).getD []).map Prod.snd, sent⟩,
      { s with grid })
  | .gKeys held =>
    let (sent, gaming) := s.gaming.onGKeys held
    let shown := if s.gaming.gRow then (GKey.all.filter fun key => held.getLsbD (gKeyBit key)).map gKeyButton else []
    (⟨false, shown, sent⟩, { s with gaming })
  | .mKeys held =>
    let (sent, gaming) := s.gaming.onMKeys held
    (⟨false, (mKeyBits.filter (s.gaming.mNow held)).map fun p => .modeKey p.1, sent⟩, { s with gaming })
  | .macroRecord held =>
    let (sent, gaming) := s.gaming.onMacroRecord held
    (⟨false, if held && s.gaming.modeKeys .macroRecord then [.modeKey .macroRecord] else [], sent⟩, { s with gaming })
  | .reconnect =>
    let (sent, gaming) := s.gaming.interrupt
    (⟨true, [], sent⟩, { s with gaming })

/-- The turns of a session. -/
def turns : KeyboardSession → List KeyboardReport → List Turn
  | _, [] => []
  | s, r :: rs => (s.turn r).1 :: turns (s.turn r).2 rs

end KeyboardSession

end Session
end OpenLogi
