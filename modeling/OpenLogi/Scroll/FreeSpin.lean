import OpenLogi.Scroll.Number
/-!
# FreeSpin — telling ratchet scrolling, a free spin and a stop apart

The detector of one wheel.  It is fed the wheel's movement reports and ticked between them, and judges from the speed
over several windows whether the wheel spins freely and whether a finger stopped it.
-/
namespace OpenLogi
namespace Scroll

variable {F : Type} [F64 F]

/-! ## Thresholds -/

def onsetFast : F := F64.lit 100
def onsetSlow : F := F64.lit 50
def onsetSlowAfter : Nat := millis 350
def continuityWindow : Nat := millis 250
def continuityMaxGap : Nat := millis 35
def onsetWindow : Nat := millis 100
def gestureEnd : Nat := millis 400
def stopMinSpeed : F := F64.lit 60
def longWindow : Nat := millis 150
def silenceNotches : F := F64.lit 5
def silenceFloor : Nat := millis 35
def slowStopMinSpeed : F := F64.lit 20
def slowSilenceGaps : F := F64.lit (5 / 2)
def slowSilenceSamples : Nat := 4
def brakeWindow : Nat := millis 45
def brakeRatio : F := F64.lit (1 / 5)
def decelRecent : Nat := millis 60
def decelFraction : F := F64.lit (3 / 5)
def decelMinSpeed : F := F64.lit 80
def drivenRecent : Nat := millis 100
def drivenRatio : F := F64.lit (7 / 5)
def drivenExtraNotches : F := F64.lit (5 / 2)
def coastRatio : F := F64.lit (11 / 10)
def slowOnsetPeak : F := F64.lit 80
def slowOnsetPeakAge : Nat := millis 400
def coastSlack : F := F64.lit 10
def stopSettle : Nat := millis 40
def settleMaxNotches : F := F64.lit 1
def speedWindow : Nat := millis 120
def history : Nat := millis 400

/-! ## State -/

inductive StopReason where
  | silence
  | brake
  | decel
  deriving DecidableEq

/-- Ratchet scrolling or not enough evidence yet, a free spin, or one stopped by hand whose last reports must not
scroll. -/
inductive WheelPhase where
  | ratchet
  | freeSpin
  | stopped (reason : StopReason)
  deriving DecidableEq

structure Report (F : Type) where
  instant : Nat
  notches : F

/-- When a finger stopped the wheel, and how far it has settled since. -/
structure Settle (F : Type) where
  since : Nat
  notches : F

def Settle.new (since : Nat) : Settle F := ⟨since, F64.lit 0⟩

/-- Absorb a report as the wheel settling, unless it comes too late or the wheel has turned too far. -/
def Settle.absorb (s : Settle F) (now : Nat) (notches : F) : Bool × Settle F :=
  let notches := s.notches + notches
  (decide (now - s.since < stopSettle) && F64.le notches settleMaxNotches, { s with notches := notches })

structure FreeSpinDetector (F : Type) [F64 F] where
  /-- The reports in the windows, the oldest first. -/
  reports : List (Report F) := []
  gestureStart : Option Nat := none
  direction : F := F64.lit 0
  freeSpinSince : Option Nat := none
  settle : Option (Settle F) := none
  peak : F := F64.lit 0
  peakAt : Option Nat := none
  phase : WheelPhase := .ratchet

namespace FreeSpinDetector

/-! ## Speeds -/

/-- Notches per second over `(start, stop]`. -/
def rateBetween (d : FreeSpinDetector F) (start stop : Nat) : F :=
  let span : F := F64.secs (stop - start)
  if F64.le span (F64.lit 0) then F64.lit 0
  else
    let within := d.reports.filter fun r => start < r.instant ∧ r.instant ≤ stop
    (within.map Report.notches).foldl (· + ·) (F64.lit 0) / span

/-- Notches per second over the `window` up to `now`. -/
def rate (d : FreeSpinDetector F) (now window : Nat) : F :=
  match checkedSub now window with
  | none => F64.lit 0
  | some start => d.rateBetween start now

def speed (d : FreeSpinDetector F) (now : Nat) : F := d.rate now speedWindow

/-- The reports in `(start, now]` left no long gap. -/
def gapless (start now : Nat) : List (Report F) → Bool
  | [] => now - start ≤ continuityMaxGap
  | r :: rest => r.instant - start ≤ continuityMaxGap && gapless r.instant now rest

def continuous (d : FreeSpinDetector F) (now : Nat) : Bool :=
  match checkedSub now continuityWindow with
  | none => false
  | some start => gapless start now (d.reports.filter fun r => start < r.instant ∧ r.instant ≤ now)

def coasting (d : FreeSpinDetector F) (now : Nat) : Bool :=
  match checkedSub now onsetWindow with
  | none => false
  | some mid =>
    match checkedSub mid onsetWindow with
    | none => false
    | some start => F64.le (d.rateBetween mid now) (d.rateBetween start mid * coastRatio + coastSlack)

/-- How long the free spin has gone on. -/
def spinning (d : FreeSpinDetector F) (now : Nat) : Nat :=
  d.freeSpinSince.elim 0 fun start => now - start

/-- The wheel sped up, which a free one cannot do on its own. -/
def driven (d : FreeSpinDetector F) (now : Nat) : Bool :=
  if d.spinning now < drivenRecent + longWindow then false
  else match checkedSub now drivenRecent with
    | none => false
    | some recentFrom =>
      match checkedSub recentFrom longWindow with
      | none => false
      | some beforeFrom =>
        let recent := d.rateBetween recentFrom now * F64.secs drivenRecent
        let expected := d.rateBetween beforeFrom recentFrom * F64.secs drivenRecent
        F64.le (expected * drivenRatio) recent && F64.le drivenExtraNotches (recent - expected)

/-- The longest silence that a wheel turning at `speed` produces on its own. -/
def silenceLimit (speed : F) : Nat :=
  if F64.le speed (F64.lit 0) then gestureEnd else Nat.max (F64.ofSecs (silenceNotches / speed)) silenceFloor

/-- How long a slow wheel may stay quiet on its own; `none` without gaps to go by. -/
def slowSilenceLimit (d : FreeSpinDetector F) : Option Nat :=
  let latest := d.reports.reverse
  let pairs := (latest.zip latest.tail).take slowSilenceSamples
  let gaps := pairs.map fun (later, earlier) => later.instant - earlier.instant
  gaps.max?.map fun longest => Nat.max (F64.ofSecs ((slowSilenceGaps : F) * F64.secs longest)) silenceFloor

def decelerated (d : FreeSpinDetector F) (now : Nat) : Option StopReason :=
  if d.spinning now ≤ decelRecent + longWindow then none
  else match checkedSub now decelRecent with
    | none => none
    | some recentFrom =>
      match checkedSub recentFrom longWindow with
      | none => none
      | some beforeFrom =>
        let before := d.rateBetween beforeFrom recentFrom
        let recent := d.rateBetween recentFrom now
        if F64.le decelMinSpeed before && F64.lt recent (before * (F64.lit 1 - decelFraction)) then some .decel
        else none

def stopReason (d : FreeSpinDetector F) (now : Nat) : Option StopReason :=
  match d.reports.getLast? with
  | none => none
  | some ⟨last, _⟩ =>
    -- the reference speed ends at the last report, so that the silence judged does not drag it down
    let speed := d.rate last longWindow
    if F64.le stopMinSpeed speed then
      if silenceLimit speed < now - last then some .silence
      else if F64.lt (d.rate now brakeWindow) (brakeRatio * speed) then some .brake
      else d.decelerated now
    else if F64.le slowStopMinSpeed speed && d.slowSilenceLimit.any fun limit => limit < now - last then some .silence
    else d.decelerated now

/-! ## Updates -/

/-- Keep a gesture that was just read as finger-driven in free spin. -/
def resumeFreeSpin (d : FreeSpinDetector F) (now : Nat) : FreeSpinDetector F :=
  { d with phase := .freeSpin, freeSpinSince := some now, settle := none }

/-- Follow the peak speed, forgotten once it is too old. -/
def peaked (d : FreeSpinDetector F) (now : Nat) : FreeSpinDetector F :=
  let speed := d.rate now onsetWindow
  let stale := d.peakAt.all fun reached => slowOnsetPeakAge < now - reached
  if stale || F64.le d.peak speed then { d with peak := speed, peakAt := some now } else d

/-- A fast wheel spins freely at once, a slower one after a flick that has lasted and coasts. -/
def onset (d : FreeSpinDetector F) (now : Nat) : Bool :=
  let elapsed := d.gestureStart.elim 0 fun start => now - start
  let speed := d.rate now onsetWindow
  let slowOnset := decide (onsetSlowAfter ≤ elapsed) && F64.le slowOnsetPeak d.peak && F64.le onsetSlow speed &&
    d.continuous now && d.coasting now
  F64.le onsetFast speed || slowOnset

def evaluate (d : FreeSpinDetector F) (now : Nat) : FreeSpinDetector F :=
  match d.phase with
  | .ratchet =>
    let d := d.peaked now
    if d.onset now then { d with phase := .freeSpin, freeSpinSince := some now } else d
  | .freeSpin =>
    if d.driven now then
      { d with phase := .ratchet, freeSpinSince := none, gestureStart := some now, peak := F64.lit 0, peakAt := none }
    else match d.stopReason now with
      | some reason => { d with phase := .stopped reason, settle := some (.new now) }
      | none => d
  | .stopped _ => d

/-- A long silence ends the gesture, whatever the speed. -/
def idle (d : FreeSpinDetector F) (now : Nat) : Bool :=
  d.reports.getLast?.any fun last => gestureEnd ≤ now - last.instant

def endGestureIfIdle (d : FreeSpinDetector F) (now : Nat) : FreeSpinDetector F := if d.idle now then {} else d

/-- Whether a report starts a new gesture: it turns the other way, or a stopped wheel is no longer settling. -/
def turned (d : FreeSpinDetector F) (now : Nat) (notches : F) : Bool × FreeSpinDetector F :=
  if d.gestureStart.isSome && F64.lt (notches * d.direction) (F64.lit 0) then (true, d)
  else match d.settle with
    | none => (false, d)
    | some settle =>
      let (absorbed, settle) := settle.absorb now (F64.abs notches)
      (!absorbed, { d with settle := some settle })

/-- Feed one movement report of signed `notches`; its phase is that of the result. -/
def report (d : FreeSpinDetector F) (now : Nat) (notches : F) : FreeSpinDetector F :=
  let (turned, d) := (d.endGestureIfIdle now).turned now notches
  let d := if turned then {} else d
  let d := if d.gestureStart.isNone then { d with gestureStart := some now, direction := F64.signum notches } else d
  let reports := (d.reports ++ [(⟨now, F64.abs notches⟩ : Report F)]).dropWhile fun r => history < now - r.instant
  { d with reports := reports }.evaluate now

/-- Judge again without a report, for the rules that can only fire between reports. -/
def tick (d : FreeSpinDetector F) (now : Nat) : FreeSpinDetector F :=
  if d.idle now then {} else if d.gestureStart.isSome then d.evaluate now else d

theorem peaked_phase (d : FreeSpinDetector F) (now : Nat) : (d.peaked now).phase = d.phase := by
  unfold peaked
  dsimp only
  split <;> rfl

/-- Only a free spin is stopped. -/
theorem evaluate_ratchet {d : FreeSpinDetector F} (h : d.phase = .ratchet) (now : Nat) :
    (d.evaluate now).phase = .ratchet ∨ (d.evaluate now).phase = .freeSpin := by
  unfold evaluate
  simp only [h]
  split
  · exact Or.inr rfl
  · exact Or.inl ((peaked_phase d now).trans h)

/-- **The first report of a fresh detector** finds no stop. -/
theorem report_fresh (now : Nat) (notches : F) :
    (({} : FreeSpinDetector F).report now notches).phase = .ratchet ∨
      (({} : FreeSpinDetector F).report now notches).phase = .freeSpin :=
  evaluate_ratchet rfl now

end FreeSpinDetector

end Scroll
end OpenLogi
