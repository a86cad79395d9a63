import Mathlib.Algebra.BigOperators.Group.List.Basic
import Mathlib.Algebra.Ring.Int.Defs
import OpenLogi.Core.Swipe
import OpenLogi.Lib.Run
/-!
# Wheel — the pass-through wheel of a grabbed mouse

`PassThroughWheel` holds small movements from rest until they add up, and sends a report's low-res count with the
hi-res movement on the same axis.  `AxisLedger` is not in the code: it follows each movement and each count to where it
went.  Instants are nanoseconds.
-/
namespace OpenLogi
namespace Hook

open OpenLogi.Core (i32Min i32Max saturatingAdd saturatingNeg)
open OpenLogi.Lib (EveryState)

def startThreshold : Nat := 47

def scrollTimeout : Int := 500000000

inductive WheelAxis where
  | vertical | horizontal
  deriving DecidableEq

inductive RelativeAxisCode where
  | relWheel | relWheelHiRes | relHwheel | relHwheelHiRes
  deriving DecidableEq

structure InputEvent where
  code : RelativeAxisCode
  value : Int
  deriving DecidableEq

def WheelAxis.hiResCode : WheelAxis → RelativeAxisCode
  | .vertical => .relWheelHiRes
  | .horizontal => .relHwheelHiRes

def WheelAxis.lowResCode : WheelAxis → RelativeAxisCode
  | .vertical => .relWheel
  | .horizontal => .relHwheel

def invertWheel (event : InputEvent) (inverted : Bool) : InputEvent :=
  if inverted = false then event
  else match event.code with
    | .relWheel | .relWheelHiRes => { event with value := saturatingNeg event.value }
    | .relHwheel | .relHwheelHiRes => event

structure Direction where
  axis : WheelAxis
  positive : Bool
  deriving DecidableEq

inductive Phase where
  | resting
  | scrolling (last : Int)
  deriving DecidableEq

structure Movement where
  hiRes : Int := 0
  lowRes : Int := 0
  deriving DecidableEq

inductive HiRes where
  | notForwarded | held | forwarded
  deriving DecidableEq

structure Axis where
  held : Movement := {}
  lowRes : Int := 0
  hiRes : HiRes := .notForwarded

structure PassThroughWheel where
  phase : Phase := .resting
  direction : Option Direction := none
  vertical : Axis := {}
  horizontal : Axis := {}

namespace PassThroughWheel

variable (wheel : PassThroughWheel)

def axis : WheelAxis → Axis
  | .vertical => wheel.vertical
  | .horizontal => wheel.horizontal

def setAxis : WheelAxis → Axis → PassThroughWheel
  | .vertical, state => { wheel with vertical := state }
  | .horizontal, state => { wheel with horizontal := state }

@[simp] theorem axis_setAxis (axis : WheelAxis) (state : Axis) : (wheel.setAxis axis state).axis axis = state := by
  cases axis <;> rfl

theorem axis_setAxis_of_ne {axis other : WheelAxis} (state : Axis) (h : other ≠ axis) :
    (wheel.setAxis axis state).axis other = wheel.axis other := by
  cases axis <;> cases other <;> first | rfl | exact absurd rfl h

@[simp] theorem phase_setAxis (axis : WheelAxis) (state : Axis) : (wheel.setAxis axis state).phase = wheel.phase := by
  cases axis <;> rfl

@[simp] theorem direction_setAxis (axis : WheelAxis) (state : Axis) :
    (wheel.setAxis axis state).direction = wheel.direction := by
  cases axis <;> rfl

/-- A clock that steps back reads as no time passed. -/
def timedOut (now : Int) : Bool :=
  match wheel.phase with
  | .resting => false
  | .scrolling last => decide (last ≤ now ∧ scrollTimeout ≤ now - last)

/-- The phase a movement meets: another direction or a pause puts the wheel at rest. -/
def phaseFor (direction : Direction) (now : Int) : Phase :=
  if wheel.direction ≠ some direction ∨ wheel.timedOut now then .resting else wheel.phase

def hiRes (axis : WheelAxis) (value now : Int) : PassThroughWheel × Option InputEvent :=
  if value = 0 then (wheel, none)
  else
    let direction : Direction := ⟨axis, decide (0 < value)⟩
    let phase := wheel.phaseFor direction now
    let state := wheel.axis axis
    let moved := saturatingAdd state.held.hiRes value
    if phase = .resting ∧ moved.natAbs ≤ startThreshold then
      ({ wheel with phase, direction := some direction }.setAxis axis
        { state with held := { state.held with hiRes := moved }, hiRes := .held }, none)
    else
      ({ wheel with phase := .scrolling now, direction := some direction }.setAxis axis
        { held := {}, lowRes := saturatingAdd state.lowRes state.held.lowRes, hiRes := .notForwarded },
        some ⟨axis.hiResCode, moved⟩)

def lowRes (axis : WheelAxis) (value : Int) : PassThroughWheel :=
  wheel.setAxis axis { wheel.axis axis with lowRes := saturatingAdd (wheel.axis axis).lowRes value }

def forwarded (axis : WheelAxis) : PassThroughWheel :=
  wheel.setAxis axis { wheel.axis axis with hiRes := .forwarded }

end PassThroughWheel

def Axis.endReport (state : Axis) (axis : WheelAxis) (inverted : Bool) : Axis × List InputEvent :=
  let ended : Axis := { state with lowRes := 0, hiRes := .notForwarded }
  match state.hiRes with
  | .held => ({ ended with held := { state.held with lowRes := saturatingAdd state.held.lowRes state.lowRes } }, [])
  | .forwarded => (ended, if state.lowRes ≠ 0 then [invertWheel ⟨axis.lowResCode, state.lowRes⟩ inverted] else [])
  | .notForwarded => (ended, [])

/-- The low-res events a report's end pushes, the vertical one first. -/
def PassThroughWheel.endReport (wheel : PassThroughWheel) (inverted : Bool) : PassThroughWheel × List InputEvent :=
  let vertical := wheel.vertical.endReport .vertical inverted
  let horizontal := wheel.horizontal.endReport .horizontal inverted
  ({ wheel with vertical := vertical.1, horizontal := horizontal.1 }, vertical.2 ++ horizontal.2)

/-! ## The ledger -/

/-- What became of a report's hi-res movement on an axis. -/
inductive Fate where
  | held
  /-- Delivered to the callback, which has not passed it on. -/
  | taken
  | forwarded
  deriving DecidableEq

structure AxisLedger where
  /-- The hi-res movement the mouse reported. -/
  reported : Int := 0
  /-- The hi-res movement in delivered events. -/
  delivered : Int := 0
  /-- The current report's movement, if it had one. -/
  fate : Option Fate := none
  /-- Every low-res count the mouse reported. -/
  counted : List Int := []
  /-- The current report's counts, and those its movement released. -/
  current : List Int := []
  /-- The counts of the movement that is still held. -/
  waiting : List Int := []
  /-- The counts whose movement the desktop got, each sent in the report that delivered it. -/
  sent : List Int := []
  /-- The counts whose movement the callback took. -/
  taken : List Int := []
  /-- The counts of reports without a movement on the axis. -/
  unmoved : List Int := []

namespace AxisLedger

variable (ledger : AxisLedger)

/-- A movement that is not zero and the event it delivered, if any. -/
def moved (value : Int) : Option InputEvent → AxisLedger
  | none => { ledger with reported := ledger.reported + value, fate := some .held }
  | some event =>
    { ledger with
      reported := ledger.reported + value, delivered := ledger.delivered + event.value, fate := some .taken
      current := ledger.current ++ ledger.waiting, waiting := [] }

def count (value : Int) : AxisLedger :=
  { ledger with counted := ledger.counted ++ [value], current := ledger.current ++ [value] }

/-- The report ends: its counts follow its movement. -/
def ended : AxisLedger :=
  match ledger.fate with
  | none => { ledger with fate := none, current := [], unmoved := ledger.unmoved ++ ledger.current }
  | some .held => { ledger with fate := none, current := [], waiting := ledger.waiting ++ ledger.current }
  | some .taken => { ledger with fate := none, current := [], taken := ledger.taken ++ ledger.current }
  | some .forwarded => { ledger with fate := none, current := [], sent := ledger.sent ++ ledger.current }

/-- The low-res event that the end of the report owes the desktop; counts that cancel out need none. -/
def owes (axis : WheelAxis) (inverted : Bool) : List InputEvent :=
  if ledger.fate = some .forwarded ∧ ledger.current.sum ≠ 0 then
    [invertWheel ⟨axis.lowResCode, ledger.current.sum⟩ inverted]
  else []

end AxisLedger

/-! ## The run -/

inductive WheelStep where
  | hiRes (axis : WheelAxis) (value now : Int)
  | lowRes (axis : WheelAxis) (value : Int)
  | forwarded (axis : WheelAxis)
  | endReport (inverted : Bool)

structure WheelRun where
  wheel : PassThroughWheel := {}
  ledger : WheelAxis → AxisLedger := fun _ => {}
  /-- The low-res events pushed. -/
  pushed : List InputEvent := []
  /-- The low-res events the ledgers owed. -/
  owed : List InputEvent := []

def InI32 (n : Int) : Prop := i32Min ≤ n ∧ n ≤ i32Max

instance (n : Int) : Decidable (InI32 n) := inferInstanceAs (Decidable (_ ∧ _))

namespace WheelRun

variable (w : WheelRun)

/-- At most one movement per axis and report, sums within `i32`, and a mark only for a movement that this report
delivered. -/
def Admits : WheelStep → Prop
  | .hiRes axis value _ =>
    value = 0 ∨ ((w.ledger axis).fate = none ∧ InI32 ((w.wheel.axis axis).held.hiRes + value) ∧
      InI32 ((w.wheel.axis axis).lowRes + (w.wheel.axis axis).held.lowRes))
  | .lowRes axis value => InI32 ((w.wheel.axis axis).lowRes + value)
  | .forwarded axis => (w.ledger axis).fate = some .taken ∨ (w.ledger axis).fate = some .forwarded
  | .endReport _ => ∀ axis, InI32 ((w.wheel.axis axis).held.lowRes + (w.wheel.axis axis).lowRes)

instance : DecidablePred w.Admits := fun e => by
  cases e with
  | hiRes => exact inferInstanceAs (Decidable (_ ∨ _))
  | lowRes => exact inferInstanceAs (Decidable (InI32 _))
  | forwarded => exact inferInstanceAs (Decidable (_ ∨ _))
  | endReport =>
    exact decidable_of_iff
      (InI32 (w.wheel.vertical.held.lowRes + w.wheel.vertical.lowRes) ∧
        InI32 (w.wheel.horizontal.held.lowRes + w.wheel.horizontal.lowRes))
      ⟨fun h axis => by cases axis; exacts [h.1, h.2], fun h => ⟨h .vertical, h .horizontal⟩⟩

def next : WheelStep → WheelRun
  | .hiRes axis value now =>
    { w with
      wheel := (w.wheel.hiRes axis value now).1
      ledger :=
        if value = 0 then w.ledger
        else Function.update w.ledger axis ((w.ledger axis).moved value (w.wheel.hiRes axis value now).2) }
  | .lowRes axis value =>
    { w with
      wheel := w.wheel.lowRes axis value
      ledger := Function.update w.ledger axis ((w.ledger axis).count value) }
  | .forwarded axis =>
    { w with
      wheel := w.wheel.forwarded axis
      ledger := Function.update w.ledger axis { w.ledger axis with fate := some .forwarded } }
  | .endReport inverted =>
    { wheel := (w.wheel.endReport inverted).1
      ledger := fun axis => (w.ledger axis).ended
      pushed := w.pushed ++ (w.wheel.endReport inverted).2
      owed :=
        w.owed ++ (w.ledger .vertical).owes .vertical inverted ++ (w.ledger .horizontal).owes .horizontal inverted }

def step (w : WheelRun) (e : WheelStep) : Option WheelRun :=
  if w.Admits e then some (w.next e) else none

end WheelRun

/-! ## What a run keeps -/

/-- The wheel scrolls, and did so last on `axis`. -/
def PassThroughWheel.ScrollsOn (wheel : PassThroughWheel) (axis : WheelAxis) : Prop :=
  (∃ last, wheel.phase = .scrolling last) ∧ ∃ positive, wheel.direction = some ⟨axis, positive⟩

/-- **The ledger of an axis accounts for its state.** -/
structure Accounts (state : Axis) (ledger : AxisLedger) (scrolls : Prop) : Prop where
  movement : ledger.delivered + state.held.hiRes = ledger.reported
  bounded : state.held.hiRes.natAbs ≤ startThreshold
  still : scrolls → state.held = {} ∧ ledger.waiting = []
  waits : state.held.lowRes = ledger.waiting.sum
  runs : state.lowRes = ledger.current.sum
  /-- Every count is in one place. -/
  counts : ledger.counted.Perm (ledger.sent ++ ledger.taken ++ ledger.unmoved ++ ledger.waiting ++ ledger.current)

def Fate.flag : Option Fate → HiRes
  | none => .notForwarded
  | some .held => .held
  | some .taken => .notForwarded
  | some .forwarded => .forwarded

/-- With the flag of the current report. -/
structure AxisInv (state : Axis) (ledger : AxisLedger) (scrolls : Prop) : Prop extends
    Accounts state ledger scrolls where
  flag : state.hiRes = Fate.flag ledger.fate
  unheld : scrolls → ledger.fate ≠ some .held

theorem AxisInv.imp {state : Axis} {ledger : AxisLedger} {p q : Prop} (h : AxisInv state ledger p) (hqp : q → p) :
    AxisInv state ledger q :=
  { h with still := fun hs => h.still (hqp hs), unheld := fun hs => h.unheld (hqp hs) }

theorem saturatingAdd_of_inI32 {a b : Int} (h : InI32 (a + b)) : saturatingAdd a b = a + b := by
  obtain ⟨hlo, hhi⟩ := h
  unfold saturatingAdd OpenLogi.Core.saturate
  omega

/-! ### One axis -/

section Axis

variable {state : Axis} {ledger : AxisLedger} {p : Prop}

/-- A movement held back. -/
theorem AxisInv.held (h : AxisInv state ledger p) {value : Int} {q : Prop} (hq : ¬ q)
    (hsmall : (state.held.hiRes + value).natAbs ≤ startThreshold) :
    AxisInv { state with held := { state.held with hiRes := state.held.hiRes + value }, hiRes := .held }
      (ledger.moved value none) q where
  movement := by
    have := h.movement
    simp only [AxisLedger.moved]
    omega
  bounded := hsmall
  still hs := absurd hs hq
  waits := h.waits
  runs := h.runs
  counts := h.counts
  flag := rfl
  unheld hs := absurd hs hq

/-- A movement delivered, with all that was held. -/
theorem AxisInv.delivered (h : AxisInv state ledger p) {value : Int} {event : InputEvent} (q : Prop)
    (hvalue : event.value = state.held.hiRes + value) :
    AxisInv { held := {}, lowRes := state.lowRes + state.held.lowRes, hiRes := .notForwarded }
      (ledger.moved value (some event)) q where
  movement := by
    have := h.movement
    simp only [AxisLedger.moved, hvalue]
    omega
  bounded := Nat.zero_le _
  still _ := ⟨rfl, rfl⟩
  waits := rfl
  runs := by
    have hruns := h.runs
    have hwaits := h.waits
    simp only [AxisLedger.moved, List.sum_append]
    omega
  counts := by
    have hcomm : (ledger.waiting ++ ledger.current).Perm (ledger.current ++ ledger.waiting) := List.perm_append_comm
    have hswap := hcomm.append_left (ledger.sent ++ ledger.taken ++ ledger.unmoved)
    refine h.counts.trans ?_
    simpa [AxisLedger.moved] using hswap
  flag := rfl
  unheld _ := nofun

theorem AxisInv.count (h : AxisInv state ledger p) (value : Int) :
    AxisInv { state with lowRes := state.lowRes + value } (ledger.count value) p where
  movement := h.movement
  bounded := h.bounded
  still := h.still
  waits := h.waits
  runs := by
    have hruns := h.runs
    simp only [AxisLedger.count, List.sum_append, List.sum_singleton]
    omega
  counts := by
    have := h.counts.append_right [value]
    simpa [AxisLedger.count] using this
  flag := h.flag
  unheld := h.unheld

theorem AxisInv.forwarded (h : AxisInv state ledger p) :
    AxisInv { state with hiRes := .forwarded } { ledger with fate := some .forwarded } p :=
  { h with flag := rfl, unheld := fun _ => nofun }

/-- The end of the report moves its counts to the list of their fate. -/
theorem AxisInv.ended_counts (h : AxisInv state ledger p) :
    ledger.ended.counted.Perm (ledger.ended.sent ++ ledger.ended.taken ++ ledger.ended.unmoved ++
      ledger.ended.waiting ++ ledger.ended.current) := by
  refine List.perm_iff_count.2 fun n => ?_
  have hcount := h.counts.count_eq n
  unfold AxisLedger.ended
  cases ledger.fate with
  | none =>
    simp only [List.count_append, List.count_nil] at hcount ⊢
    omega
  | some fate =>
    cases fate <;> simp only [List.count_append, List.count_nil] at hcount ⊢ <;> omega

/-- The report ends: what is pushed is what is owed. -/
theorem AxisInv.ended (h : AxisInv state ledger p) (axis : WheelAxis) (inverted : Bool)
    (hfits : InI32 (state.held.lowRes + state.lowRes)) :
    AxisInv (state.endReport axis inverted).1 ledger.ended p ∧
      (state.endReport axis inverted).2 = ledger.owes axis inverted := by
  have hcounts := h.ended_counts
  have hruns := h.runs
  have hflag := h.flag
  have hstill := h.still
  have hwaits := h.waits
  unfold AxisLedger.ended at hcounts ⊢
  unfold Axis.endReport AxisLedger.owes
  cases hfate : ledger.fate with
  | none =>
    rw [hfate] at hflag hcounts
    simp only [hflag, Fate.flag, reduceCtorEq, false_and, if_false, and_true]
    exact
      { h with
        waits := hwaits, still := hstill, runs := rfl, flag := rfl, unheld := fun _ => nofun, counts := hcounts }
  | some fate =>
    rw [hfate] at hflag hcounts
    cases fate with
    | held =>
      simp only [hflag, Fate.flag, Option.some.injEq, reduceCtorEq, false_and, if_false, and_true]
      refine
        { h with
          waits := ?_
          still := fun hs => absurd hfate (h.unheld hs)
          runs := rfl, flag := rfl, unheld := fun _ => nofun, counts := hcounts }
      rw [saturatingAdd_of_inI32 hfits, List.sum_append, hwaits, hruns]
    | taken =>
      simp only [hflag, Fate.flag, Option.some.injEq, reduceCtorEq, false_and, if_false, and_true]
      exact
        { h with
          waits := hwaits, still := hstill, runs := rfl, flag := rfl, unheld := fun _ => nofun, counts := hcounts }
    | forwarded =>
      simp only [hflag, Fate.flag, true_and, hruns, and_true]
      exact
        { h with
          waits := hwaits, still := hstill, runs := rfl, flag := rfl, unheld := fun _ => nofun, counts := hcounts }

end Axis

/-! ### Every step -/

namespace WheelRun

structure Inv (w : WheelRun) : Prop where
  axis : ∀ axis, AxisInv (w.wheel.axis axis) (w.ledger axis) (w.wheel.ScrollsOn axis)
  pushed : w.pushed = w.owed

theorem inv_init : Inv {} where
  axis axis := by
    have hrests : ¬ ({} : PassThroughWheel).ScrollsOn axis := fun h => nomatch h.1
    cases axis <;>
      exact { movement := rfl, bounded := Nat.zero_le _, still := fun hs => absurd hs hrests, waits := rfl, runs := rfl,
              counts := .refl _, flag := rfl, unheld := fun hs => absurd hs hrests }
  pushed := rfl

variable {wheel : PassThroughWheel} {axis : WheelAxis} {w : WheelRun}

theorem scrollsOn_setAxis {other : WheelAxis} {state : Axis} :
    (wheel.setAxis axis state).ScrollsOn other ↔ wheel.ScrollsOn other := by
  unfold PassThroughWheel.ScrollsOn
  rw [wheel.phase_setAxis, wheel.direction_setAxis]

/-- A step of one axis, after which the other scrolls only if it did. -/
theorem inv_setAxis (hi : w.Inv) {state : Axis} {ledger : AxisLedger}
    (haxis : ∀ other, wheel.axis other = w.wheel.axis other)
    (hscrolls : ∀ other, other ≠ axis → wheel.ScrollsOn other → w.wheel.ScrollsOn other)
    (h : AxisInv state ledger (wheel.ScrollsOn axis)) :
    Inv { w with wheel := wheel.setAxis axis state, ledger := Function.update w.ledger axis ledger } where
  axis other := by
    dsimp only
    rw [scrollsOn_setAxis]
    by_cases hother : other = axis
    · subst hother
      rw [wheel.axis_setAxis, Function.update_self]
      exact h
    · rw [wheel.axis_setAxis_of_ne state hother, Function.update_of_ne hother, haxis]
      exact (hi.axis other).imp (hscrolls other hother)
  pushed := hi.pushed

/-- After a movement no other axis scrolls. -/
theorem not_scrollsOn {other : WheelAxis} {positive : Bool} (hdirection : wheel.direction = some ⟨axis, positive⟩)
    (hother : other ≠ axis) : ¬ wheel.ScrollsOn other := by
  rintro ⟨-, _, h⟩
  rw [hdirection] at h
  cases h
  exact hother rfl

theorem inv_hiRes (hi : w.Inv) (axis : WheelAxis) (value now : Int) (hadmits : w.Admits (.hiRes axis value now)) :
    (w.next (.hiRes axis value now)).Inv := by
  unfold next PassThroughWheel.hiRes
  by_cases hzero : value = 0
  · simp only [if_pos hzero]
    exact hi
  simp only [if_neg hzero]
  obtain ⟨-, hmoved, hreleased⟩ := hadmits.resolve_left hzero
  rw [saturatingAdd_of_inI32 hmoved, saturatingAdd_of_inI32 hreleased]
  split
  · rename_i hrests
    have hnot : ∀ other, ¬ PassThroughWheel.ScrollsOn { w.wheel with
        phase := w.wheel.phaseFor ⟨axis, decide (0 < value)⟩ now
        direction := some ⟨axis, decide (0 < value)⟩ } other := by
      rintro other ⟨⟨last, hphase⟩, -⟩
      exact Phase.noConfusion (hrests.1.symm.trans hphase)
    exact inv_setAxis hi (fun other => by cases other <;> rfl) (fun other _ hs => absurd hs (hnot other))
      ((hi.axis axis).held (hnot axis) hrests.2)
  · exact inv_setAxis hi (fun other => by cases other <;> rfl)
      (fun other hother hs => absurd hs (not_scrollsOn rfl hother)) ((hi.axis axis).delivered _ rfl)

theorem inv_endReport (hi : w.Inv) (inverted : Bool) (hadmits : w.Admits (.endReport inverted)) :
    (w.next (.endReport inverted)).Inv := by
  have hended := fun axis => (hi.axis axis).ended axis inverted (hadmits axis)
  refine ⟨fun axis => ?_, ?_⟩
  · cases axis with
    | vertical => exact (hended .vertical).1
    | horizontal => exact (hended .horizontal).1
  · have hpush : (w.wheel.endReport inverted).2 =
        (w.ledger .vertical).owes .vertical inverted ++ (w.ledger .horizontal).owes .horizontal inverted :=
      congrArg₂ _ (hended .vertical).2 (hended .horizontal).2
    simp only [next]
    rw [hpush, hi.pushed, List.append_assoc]

theorem inv_step {w' : WheelRun} (e : WheelStep) (hi : w.Inv) (h : w.step e = some w') : w'.Inv := by
  unfold step at h
  split at h
  · rename_i hadmits
    cases h
    cases e with
    | hiRes axis value now => exact inv_hiRes hi axis value now hadmits
    | lowRes axis value =>
      simp only [next, PassThroughWheel.lowRes]
      rw [saturatingAdd_of_inI32 hadmits]
      exact inv_setAxis hi (fun _ => rfl) (fun _ _ hs => hs) ((hi.axis axis).count value)
    | forwarded axis => exact inv_setAxis hi (fun _ => rfl) (fun _ _ hs => hs) (hi.axis axis).forwarded
    | endReport inverted => exact inv_endReport hi inverted hadmits
  · cases h

/-- The ledgers account for the wheel, and what was pushed is what they owed. -/
def Accounted (w : WheelRun) : Prop :=
  (∀ axis, Accounts (w.wheel.axis axis) (w.ledger axis) (w.wheel.ScrollsOn axis)) ∧ w.pushed = w.owed

/-- A tick held with its movement goes out with it. -/
example : (Lib.run step {} [.lowRes .vertical 1, .hiRes .vertical 15 0, .endReport false, .hiRes .vertical 45 8,
    .forwarded .vertical, .endReport true]).map pushed = some [⟨.relWheel, -1⟩] := by decide

end WheelRun

end Hook
end OpenLogi
