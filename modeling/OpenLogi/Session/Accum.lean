import OpenLogi.Core.Swipe
import OpenLogi.Session.Input
/-!
# Accum — what a mouse capture session holds

The accumulator that the diverted `0x1b04` reports of a mouse go through: which armed source owns the raw motion, the
clicks and swipes that follow, and the edges of every armed control.  Beside it the mask of the spied onboard buttons.
A power cycle clears both.
-/
namespace OpenLogi
namespace Session

open OpenLogi.Core

/-! ## The controls of a session -/

/-- The gesture sources and the buttons they deliver. -/
def gestureSourceButtons : List (UInt16 × ButtonId) :=
  [(0x00c3, .gestureButton), (0x00d0, .gestureButton), (0x01a0, .hapticPanel)]

def gestureSourceButton (cid : UInt16) : Option ButtonId :=
  (gestureSourceButtons.find? fun p => p.1 = cid).map Prod.snd

def capturedGestureButton (cid : UInt16) (gestureButtonCids : List (UInt16 × ButtonId)) : Option ButtonId :=
  (gestureSourceButton cid).or ((gestureButtonCids.find? fun p => p.1 = cid).map Prod.snd)

/-- The controls armed, by how they were diverted. -/
structure ArmedControls where
  gestureCids : List UInt16
  gestureButtonCids : List (UInt16 × ButtonId)
  dpiCids : List UInt16
  buttonCids : List (UInt16 × ButtonId)
  wheelButtonCids : List (UInt16 × ButtonId)

namespace ArmedControls

/-- The press and release of a wheel-hold button are ordinary edges. -/
def buttonSet (armed : ArmedControls) : List (UInt16 × ButtonId) := armed.buttonCids ++ armed.wheelButtonCids

/-- The gesture sources of a list of cids; a cid that is none never begins a hold. -/
def sources (cids : List UInt16) : List (UInt16 × ButtonId) :=
  cids.filterMap fun cid => (gestureSourceButton cid).map fun button => (cid, button)

/-- Every control whose hold may gesture. -/
def gestures (armed : ArmedControls) : List (UInt16 × ButtonId) := sources armed.gestureCids ++ armed.gestureButtonCids

/-- The armed sources that a report shows held. -/
def held (armed : ArmedControls) (cids : List UInt16) : List (UInt16 × ButtonId) :=
  sources (armed.gestureCids.filter fun cid => cid ∈ cids) ++ armed.gestureButtonCids.filter fun p => p.1 ∈ cids

theorem sources_filter (P : UInt16 → Bool) : ∀ cids : List UInt16,
    sources (cids.filter P) = (sources cids).filter fun p => P p.1
  | [] => rfl
  | cid :: cids => by
    have ih := sources_filter P cids
    unfold sources at ih ⊢
    rw [List.filterMap_cons, List.filter_cons]
    cases hp : P cid <;> cases hb : gestureSourceButton cid <;> simp [hb, hp, ih]

theorem held_eq (armed : ArmedControls) (cids : List UInt16) :
    armed.held cids = armed.gestures.filter fun p => p.1 ∈ cids := by
  rw [held, gestures, List.filter_append, sources_filter]

end ArmedControls

/-! ## The hold -/

/-- The hold that owns raw motion: the first source held, until it is released. -/
inductive HoldState where
  | idle
  | holding (cid : UInt16) (button : ButtonId) (swipe : SwipeAccumulator) (overlap skipFirstRawXy : Bool)

def beginHold (cid : UInt16) (button : ButtonId) (overlap skipFirstRawXy : Bool) (now : Nat) : HoldState :=
  .holding cid button (.begin now) overlap skipFirstRawXy

structure CaptureAccum where
  hold : HoldState := .idle
  gesturesDown : List UInt16 := []
  dpiDown : Bool := false
  buttonsDown : List UInt16 := []

namespace CaptureAccum

/-- The first source still held begins or takes over the hold. -/
def takeOver (accum : CaptureAccum) (held : List (UInt16 × ButtonId)) (now : Nat) : HoldState :=
  match held with
  | [] => .idle
  | p :: _ => beginHold p.1 p.2 (decide (1 < held.length)) (decide (p.1 ∉ accum.gesturesDown)) now

/-- A released hold that committed no direction is a click. -/
def nextHold (accum : CaptureAccum) (held : List (UInt16 × ButtonId)) (cids : List UInt16) (now : Nat) :
    List CapturedInput × HoldState :=
  match accum.hold with
  | .holding cid button swipe _ skipFirstRawXy =>
    if cid ∈ cids then ([], .holding cid button swipe (decide (1 < held.length)) skipFirstRawXy)
    else (if swipe.ended.1 then [.gesture button .click] else [], accum.takeOver held now)
  | .idle => ([], accum.takeOver held now)

/-- The edges of the sources: the releases in the order they went down, then the presses. -/
def gestureEdges (accum : CaptureAccum) (held gestureButtonCids : List (UInt16 × ButtonId)) : List CapturedInput :=
  (accum.gesturesDown.filterMap fun cid =>
    if held.any fun p => p.1 = cid then none else (capturedGestureButton cid gestureButtonCids).map .buttonUp) ++
  (held.filter fun p => decide (p.1 ∉ accum.gesturesDown)).map fun p => .buttonDown p.2

/-- The edges of the plain buttons, and those that are down then. -/
def pressButtons (cids : List UInt16) : List (UInt16 × ButtonId) → List UInt16 → List CapturedInput × List UInt16
  | [], down => ([], down)
  | (cid, button) :: rest, down =>
    if cid ∈ cids ∧ cid ∉ down then
      let (sent, down) := pressButtons cids rest (down ++ [cid])
      (.buttonDown button :: sent, down)
    else if cid ∉ cids ∧ cid ∈ down then
      let (sent, down) := pressButtons cids rest (down.filter (· ≠ cid))
      (.buttonUp button :: sent, down)
    else pressButtons cids rest down

/-- A `divertedButtons` report. -/
def onButtons (accum : CaptureAccum) (armed : ArmedControls) (cids : List UInt16) (now : Nat) :
    List CapturedInput × CaptureAccum :=
  let held := armed.held cids
  let (click, hold) := accum.nextHold held cids now
  let dpiDown := armed.dpiCids.any fun cid => cid ∈ cids
  let (edges, buttonsDown) := pressButtons cids armed.buttonSet accum.buttonsDown
  (click ++ accum.gestureEdges held armed.gestureButtonCids ++ edge accum.dpiDown dpiDown .dpiToggle ++ edges,
    { hold, gesturesDown := held.map Prod.fst, dpiDown, buttonsDown })

/-- A `rawXy` report: the first sample of a fresh hold and the motion of an overlap are dropped. -/
def onRawXy (accum : CaptureAccum) (dx dy : Int) (now later : Nat) : List CapturedInput × CaptureAccum :=
  match accum.hold with
  | .idle => ([], accum)
  | .holding cid button swipe overlap skipFirstRawXy =>
    if skipFirstRawXy then ([], { accum with hold := .holding cid button swipe overlap false })
    else if overlap then ([], accum)
    else
      let (direction, swipe) := swipe.accumulate dx dy now later
      ((direction.map fun d => .gesture button d).toList,
        { accum with hold := .holding cid button swipe overlap skipFirstRawXy })

end CaptureAccum

/-! ## The spied buttons -/

namespace SpyEdges

/-- The captured slots of a mask, diffed against the mask held. -/
def onMask (held mask : BitVec 16) (captured : List (Fin 16 × ButtonId)) : List CapturedInput :=
  captured.flatMap fun p =>
    if (mask ^^^ held).getLsbD p.1 = false then []
    else if mask.getLsbD p.1 then [.buttonDown p.2] else [.buttonUp p.2]

/-- What a power cycle reports: a mouse that comes back sends an unchanged mask, which is no edge. -/
def interrupt (held : BitVec 16) : List CapturedInput := if held ≠ 0 then [.interrupted] else []

theorem onMask_eq (held mask : BitVec 16) (captured : List (Fin 16 × ButtonId)) :
    onMask held mask captured = captured.flatMap fun p => edge (held.getLsbD p.1) (mask.getLsbD p.1) p.2 := by
  unfold onMask
  congr 1
  funext p
  rw [BitVec.getLsbD_xor]
  cases held.getLsbD p.1 <;> cases mask.getLsbD p.1 <;> rfl

end SpyEdges

/-! ## The edges of the armed controls -/

namespace CaptureAccum

open ArmedControls

variable {cids : List UInt16}

/-- One plain button: its edge, and whether it is down for the rest. -/
theorem pressButtons_cons (cid : UInt16) (button : ButtonId) (rest : List (UInt16 × ButtonId)) (down : List UInt16) :
    ∃ down' : List UInt16, (∀ c, c ∈ down' ↔ if c = cid then cid ∈ cids else c ∈ down) ∧
      (pressButtons cids ((cid, button) :: rest) down).1 =
        edge (decide (cid ∈ down)) (decide (cid ∈ cids)) button ++ (pressButtons cids rest down').1 ∧
      (pressButtons cids ((cid, button) :: rest) down).2 = (pressButtons cids rest down').2 := by
  have hsame : ∀ c, (cid ∈ cids ↔ cid ∈ down) → (c ∈ down ↔ if c = cid then cid ∈ cids else c ∈ down) := by
    intro c h
    by_cases hc : c = cid
    · rw [if_pos hc, hc, h]
    · rw [if_neg hc]
  rw [pressButtons]
  by_cases hin : cid ∈ cids <;> by_cases hdown : cid ∈ down
  · exact ⟨down, fun c => hsame c (by simp [hin, hdown]), by simp [hin, hdown, edge], by simp [hin, hdown]⟩
  · refine ⟨down ++ [cid], fun c => ?_, by simp [hin, hdown, edge], by simp [hin, hdown]⟩
    by_cases hc : c = cid <;> simp [hc, hin]
  · refine ⟨down.filter (· ≠ cid), fun c => ?_, by simp [hin, hdown, edge], by simp [hin, hdown]⟩
    by_cases hc : c = cid <;> simp [hc, hin]
  · exact ⟨down, fun c => hsame c (by simp [hin, hdown]), by simp [hin, hdown, edge], by simp [hin, hdown]⟩

/-- The plain buttons send their edges, in the order they were armed. -/
theorem pressButtons_fst : ∀ {set : List (UInt16 × ButtonId)} (_ : (set.map Prod.fst).Nodup) (down : List UInt16),
    (pressButtons cids set down).1 = set.flatMap fun p => edge (decide (p.1 ∈ down)) (decide (p.1 ∈ cids)) p.2
  | [], _, _ => rfl
  | (cid, button) :: set, hn, down => by
    rw [List.map_cons, List.nodup_cons] at hn
    obtain ⟨down', hdown', hsent, -⟩ := pressButtons_cons cid button set down
    rw [hsent, pressButtons_fst hn.2 down', List.flatMap_cons]
    congr 1
    refine List.flatMap_congr fun p hp => ?_
    have hne : p.1 ≠ cid := fun he => hn.1 (he ▸ List.mem_map.2 ⟨p, hp, rfl⟩)
    simp only [hdown', if_neg hne]

/-- A plain button is down once the report shows it held; the others stay as they are. -/
theorem mem_pressButtons : ∀ (set : List (UInt16 × ButtonId)) (down : List UInt16) (c : UInt16),
    c ∈ (pressButtons cids set down).2 ↔ if c ∈ set.map Prod.fst then c ∈ cids else c ∈ down
  | [], _, _ => by simp [pressButtons]
  | (cid, button) :: set, down, c => by
    obtain ⟨down', hdown', -, hsnd⟩ := pressButtons_cons cid button set down
    rw [hsnd, mem_pressButtons set down' c, hdown']
    simp only [List.map_cons, List.mem_cons]
    by_cases hc : c = cid
    · by_cases hset : c ∈ set.map Prod.fst <;> simp [hc]
    · simp only [hc, if_false, false_or]

/-- What a release or a take-over of the hold sends is a click at most. -/
theorem nextHold_clicks (accum : CaptureAccum) (held : List (UInt16 × ButtonId)) (now : Nat) :
    ∀ x ∈ (accum.nextHold held cids now).1, ∃ button direction, x = .gesture button direction := by
  intro x hx
  unfold nextHold at hx
  split at hx
  · split at hx
    · cases hx
    · split at hx
      · exact ⟨_, _, List.mem_singleton.1 hx⟩
      · cases hx
  · cases hx

theorem onRawXy_gestures (accum : CaptureAccum) (dx dy : Int) (now later : Nat) :
    ∀ x ∈ (accum.onRawXy dx dy now later).1, ∃ button direction, x = .gesture button direction := by
  intro x hx
  unfold onRawXy at hx
  split at hx
  · cases hx
  · split at hx
    · cases hx
    · split at hx
      · cases hx
      · obtain ⟨d, -, rfl⟩ := Option.map_eq_some_iff.1 (Option.mem_toList.1 hx)
        exact ⟨_, d, rfl⟩

/-- Motion presses and releases nothing. -/
theorem onRawXy_down (accum : CaptureAccum) (dx dy : Int) (now later : Nat) :
    (accum.onRawXy dx dy now later).2.gesturesDown = accum.gesturesDown ∧
      (accum.onRawXy dx dy now later).2.dpiDown = accum.dpiDown ∧
      (accum.onRawXy dx dy now later).2.buttonsDown = accum.buttonsDown := by
  unfold onRawXy
  split
  · exact ⟨rfl, rfl, rfl⟩
  · split
    · exact ⟨rfl, rfl, rfl⟩
    · split
      · exact ⟨rfl, rfl, rfl⟩
      · exact ⟨rfl, rfl, rfl⟩

end CaptureAccum

end Session
end OpenLogi
