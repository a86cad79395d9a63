/-!
# Machine — the debouncer of one grabbed mouse

`ButtonDebounce`, libinput's state machine of ten states and two timers.  Instants are nanoseconds.  `handle` decides
what a change or a timer does to the tracked button; `endReport` flushes it where another button changes.
-/
namespace OpenLogi
namespace Debounce

abbrev KeyCode := UInt16

def bounceTimeout : Nat := 25000000

def spuriousTimeout : Nat := 12000000

def busUsb : UInt16 := 0x03

def logitechVendorId : UInt16 := 0x046D

def neverDebounced : List UInt16 := [0x4024, 0x404B, 0x404C, 0x404D]

/-- A button going down or up. -/
structure ButtonChange where
  button : KeyCode
  pressed : Bool
  deriving DecidableEq

inductive State where
  | isUp
  | isDown
  | isDownWaiting
  | isUpDelaying
  | isUpDelayingSpurious
  | isUpDetectingSpurious
  | isDownDetectingSpurious
  | isUpWaiting
  | isDownDelaying
  | disabled
  deriving DecidableEq

inductive Event where
  | press
  | release
  | timeout
  | timeoutShort
  | otherButton
  deriving DecidableEq

structure ButtonDebounce where
  state : State
  button : Option KeyCode
  spurious : Bool
  bounceAt : Option Nat
  spuriousAt : Option Nat
  report : List ButtonChange

namespace ButtonDebounce

def forDevice (busType vendor product : UInt16) : ButtonDebounce :=
  let never := busType = busUsb ∧ vendor = logitechVendorId ∧ product ∈ neverDebounced
  ⟨if never then .disabled else .isUp, none, false, none, none, []⟩

def changed (d : ButtonDebounce) (change : ButtonChange) : ButtonDebounce := { d with report := d.report ++ [change] }

/-! ## The timers -/

def startBounceTimer (d : ButtonDebounce) (now : Nat) : ButtonDebounce :=
  { d with bounceAt := some (now + bounceTimeout) }

def startSpuriousTimer (d : ButtonDebounce) (now : Nat) : ButtonDebounce :=
  { d with spuriousAt := some (now + spuriousTimeout) }

def startTimers (d : ButtonDebounce) (now : Nat) : ButtonDebounce := (d.startBounceTimer now).startSpuriousTimer now

def cancelTimers (d : ButtonDebounce) : ButtonDebounce := { d with bounceAt := none, spuriousAt := none }

/-- Stop the timer due at `now`, if any, and name its event. -/
def takeDue (d : ButtonDebounce) (now : Nat) : Option (Event × ButtonDebounce) :=
  if d.spuriousAt.any (· ≤ now) then some (.timeoutShort, { d with spuriousAt := none })
  else if d.bounceAt.any (· ≤ now) then some (.timeout, { d with bounceAt := none })
  else none

/-- When the next timer runs out. -/
def deadline (d : ButtonDebounce) : Option Nat :=
  match d.bounceAt, d.spuriousAt with
  | some a, some b => some (min a b)
  | some a, none => some a
  | none, b => b

/-! ## The states -/

def press (d : ButtonDebounce) : Option ButtonChange := d.button.map fun button => ⟨button, true⟩

def release (d : ButtonDebounce) : Option ButtonChange := d.button.map fun button => ⟨button, false⟩

def goTo (d : ButtonDebounce) (state : State) : ButtonDebounce := { d with state }

/-- `debounce_handle_event` after the timers of another button's event are stopped. -/
def handleState (d : ButtonDebounce) (event : Event) (now : Nat) : Option ButtonChange × ButtonDebounce :=
  match d.state, event with
  | .isUp, .press => (d.press, (d.startBounceTimer now).goTo .isDownWaiting)
  | .isDown, .release =>
    if d.spurious then (none, (d.startTimers now).goTo .isUpDelayingSpurious)
    else (d.release, (d.startTimers now).goTo .isUpDetectingSpurious)
  | .isDownWaiting, .release => (none, (d.startBounceTimer now).goTo .isUpDelaying)
  | .isDownWaiting, .timeout | .isDownWaiting, .otherButton => (none, d.goTo .isDown)
  | .isUpDelaying, .press => (none, (d.startBounceTimer now).goTo .isDownWaiting)
  | .isUpDelaying, .timeout | .isUpDelaying, .otherButton | .isUpDelayingSpurious, .otherButton =>
    (d.release, d.goTo .isUp)
  | .isUpDelayingSpurious, .press => (none, d.cancelTimers.goTo .isDown)
  | .isUpDelayingSpurious, .timeoutShort => (d.release, d.goTo .isUpWaiting)
  | .isUpDetectingSpurious, .press => (none, (d.startTimers now).goTo .isDownDetectingSpurious)
  | .isUpDetectingSpurious, .timeout | .isUpDetectingSpurious, .otherButton
  | .isUpWaiting, .timeout | .isUpWaiting, .otherButton => (none, d.goTo .isUp)
  | .isUpDetectingSpurious, .timeoutShort => (none, d.goTo .isUpWaiting)
  | .isDownDetectingSpurious, .release => (none, (d.startTimers now).goTo .isUpDetectingSpurious)
  | .isDownDetectingSpurious, .timeoutShort =>
    (d.press, { d with bounceAt := none, state := .isDown, spurious := true })
  | .isDownDetectingSpurious, .timeout | .isDownDetectingSpurious, .otherButton
  | .isDownDelaying, .timeout | .isDownDelaying, .otherButton => (d.press, d.goTo .isDown)
  | .isUpWaiting, .press => (none, (d.startBounceTimer now).goTo .isDownDelaying)
  | .isDownDelaying, .release => (none, (d.startBounceTimer now).goTo .isUpWaiting)
  | .disabled, .press => (d.press, d)
  | .disabled, .release => (d.release, d)
  | _, _ => (none, d)

def handle (d : ButtonDebounce) (event : Event) (now : Nat) : Option ButtonChange × ButtonDebounce :=
  (if event = .otherButton then d.cancelTimers else d).handleState event now

/-! ## Reports -/

/-- Rounds of `expire`'s loop: each stops one of the two timers and starts none, so the third finds none due. -/
def expireRounds (now : Nat) : Nat → ButtonDebounce → List ButtonChange × ButtonDebounce
  | 0, d => ([], d)
  | n + 1, d =>
    match d.takeDue now with
    | none => ([], d)
    | some (event, d) =>
      let (change, d) := d.handle event now
      let (changes, d) := expireRounds now n d
      (change.toList ++ changes, d)

/-- Run the timers due at `now`. -/
def expire (d : ButtonDebounce) (now : Nat) : List ButtonChange × ButtonDebounce := expireRounds now 3 d

/-- One change of a report: what is delivered so far, and whether the state was flushed before it. -/
def endChange (several : Bool) (now : Nat) (acc : List ButtonChange × Bool × ButtonDebounce) (change : ButtonChange) :
    List ButtonChange × Bool × ButtonDebounce :=
  let (deliver, flushed, d) := acc
  -- a flush leaves the state at rest, and which way is up to the change
  let (flushed, d) :=
    if flushed && d.state ≠ .disabled then (false, d.goTo (if change.pressed then .isUp else .isDown)) else (flushed, d)
  let d := { d with button := some change.button }
  let (delivered, d) := d.handle (if change.pressed then .press else .release) now
  let deliver := deliver ++ delivered.toList
  if several then
    let (held, d) := d.handle .otherButton now
    (deliver ++ held.toList, true, d)
  else (deliver, flushed, d)

/-- End the report being read, at `now`. -/
def endReport (d : ButtonDebounce) (now : Nat) : List ButtonChange × ButtonDebounce :=
  let (deliver, d) := d.expire now
  let report := d.report
  let d := { d with report := [] }
  let several := decide (1 < report.length)
  match report with
  | [] => (deliver, d)
  | first :: _ =>
    let start : List ButtonChange × Bool × ButtonDebounce :=
      if several || d.button ≠ some first.button then
        let (held, d) := d.handle .otherButton now
        (deliver ++ held.toList, true, d)
      else (deliver, false, d)
    let (deliver, _, d) := report.foldl (endChange several now) start
    (deliver, d)

/-! ## The loop of `expire` -/

/-- No timer is due at `now`. -/
structure Quiet (d : ButtonDebounce) (now : Nat) : Prop where
  bounce : ∀ t ∈ d.bounceAt, now < t
  short : ∀ t ∈ d.spuriousAt, now < t

/-- The timers that run. -/
def timers (d : ButtonDebounce) : Nat := d.bounceAt.toList.length + d.spuriousAt.toList.length

theorem timers_le (d : ButtonDebounce) : d.timers ≤ 2 := by
  have hb := Option.length_toList_le (o := d.bounceAt)
  have hs := Option.length_toList_le (o := d.spuriousAt)
  unfold timers
  omega

variable {d d' : ButtonDebounce} {now : Nat} {event : Event}

theorem takeDue_eq_none : d.takeDue now = none ↔ d.Quiet now := by
  unfold takeDue
  constructor
  · intro h
    split at h
    · cases h
    · split at h
      · cases h
      · rename_i hs hb
        simp only [Option.any_eq_true, decide_eq_true_eq, not_exists, not_and, Nat.not_le] at hs hb
        exact ⟨hb, hs⟩
  · rintro ⟨hb, hs⟩
    have hb' : ¬ d.bounceAt.any (· ≤ now) = true := by
      simp only [Option.any_eq_true, decide_eq_true_eq, not_exists, not_and, Nat.not_le]
      exact hb
    have hs' : ¬ d.spuriousAt.any (· ≤ now) = true := by
      simp only [Option.any_eq_true, decide_eq_true_eq, not_exists, not_and, Nat.not_le]
      exact hs
    rw [if_neg hs', if_neg hb']

/-- The timer taken: the short one, or the other where the short one is not due. -/
theorem takeDue_some (h : d.takeDue now = some (event, d')) :
    (event = .timeoutShort ∧ d' = { d with spuriousAt := none } ∧ ∃ t, d.spuriousAt = some t ∧ t ≤ now) ∨
      (event = .timeout ∧ d' = { d with bounceAt := none } ∧ (∃ t, d.bounceAt = some t ∧ t ≤ now) ∧
        ∀ t ∈ d.spuriousAt, now < t) := by
  unfold takeDue at h
  split at h
  · rename_i hs
    simp only [Option.any_eq_true, decide_eq_true_eq] at hs
    cases h
    exact .inl ⟨rfl, rfl, hs⟩
  · split at h
    · rename_i hs hb
      simp only [Option.any_eq_true, decide_eq_true_eq, not_exists, not_and, Nat.not_le] at hs hb
      cases h
      exact .inr ⟨rfl, rfl, hb, hs⟩
    · cases h

theorem takeDue_timers (h : d.takeDue now = some (event, d')) :
    d'.timers < d.timers ∧ (event = .timeout ∨ event = .timeoutShort) := by
  obtain ⟨rfl, rfl, t, ht, -⟩ | ⟨rfl, rfl, ⟨t, ht, -⟩, -⟩ := takeDue_some h <;> simp [timers, ht]

theorem takeDue_keeps (h : d.takeDue now = some (event, d')) :
    d'.state = d.state ∧ d'.button = d.button := by
  obtain ⟨-, rfl, -⟩ | ⟨-, rfl, -⟩ := takeDue_some h <;> exact ⟨rfl, rfl⟩

/-- The event of a timer starts no timer. -/
theorem handle_timer (d : ButtonDebounce) (now : Nat) (h : event = .timeout ∨ event = .timeoutShort) :
    (d.handle event now).2.timers ≤ d.timers := by
  obtain ⟨state, button, spurious, bounceAt, spuriousAt, report⟩ := d
  rcases h with rfl | rfl <;> cases state <;> simp [handle, handleState, timers, goTo]

theorem handle_report (d : ButtonDebounce) (event : Event) (now : Nat) :
    (d.handle event now).2.report = d.report := by
  obtain ⟨state, button, spurious, bounceAt, spuriousAt, report⟩ := d
  cases state <;> cases event <;> cases spurious <;> rfl

theorem Quiet.goTo (h : d.Quiet now) (state : State) : (d.goTo state).Quiet now :=
  ⟨h.bounce, h.short⟩

theorem Quiet.startBounceTimer (h : d.Quiet now) :
    (d.startBounceTimer now).Quiet now := by
  refine ⟨fun t ht => ?_, h.short⟩
  cases ht
  exact Nat.lt_add_of_pos_right (by decide)

theorem Quiet.startTimers (h : d.Quiet now) : (d.startTimers now).Quiet now := by
  refine ⟨h.startBounceTimer.bounce, fun t ht => ?_⟩
  cases ht
  exact Nat.lt_add_of_pos_right (by decide)

theorem quiet_cancelTimers (d : ButtonDebounce) (now : Nat) : d.cancelTimers.Quiet now :=
  ⟨fun _ hno => (by cases hno), fun _ hno => (by cases hno)⟩

/-- An event starts no timer that is already due. -/
theorem handle_quiet (event : Event) (h : d.Quiet now) :
    (d.handle event now).2.Quiet now := by
  have hd : (if event = .otherButton then d.cancelTimers else d).Quiet now := by
    split
    · exact quiet_cancelTimers d now
    · exact h
  unfold handle
  generalize (if event = .otherButton then d.cancelTimers else d) = d at hd
  have hclear : ({ d with bounceAt := none, state := .isDown, spurious := true } : ButtonDebounce).Quiet now :=
    ⟨fun _ hno => (by cases hno), hd.short⟩
  unfold handleState
  split
  case h_2 => split <;> exact hd.startTimers.goTo _
  all_goals first
    | exact hd
    | exact hd.goTo _
    | exact hd.startBounceTimer.goTo _
    | exact hd.startTimers.goTo _
    | exact (quiet_cancelTimers d now).goTo _
    | exact hclear

theorem expireRounds_quiet (now : Nat) : ∀ (n : Nat) (d : ButtonDebounce), d.timers < n →
    (expireRounds now n d).2.Quiet now
  | n + 1, d, hn => by
    unfold expireRounds
    split
    · rename_i h
      exact takeDue_eq_none.1 h
    · rename_i event d' h
      obtain ⟨hlt, hev⟩ := takeDue_timers h
      have hle := handle_timer d' now hev
      exact expireRounds_quiet now n (d'.handle event now).2 (by omega)

/-- **`expire` stops with no timer due**: the rounds are enough for its loop. -/
theorem expire_quiet (d : ButtonDebounce) (now : Nat) : (d.expire now).2.Quiet now :=
  expireRounds_quiet now 3 d (Nat.lt_succ_of_le d.timers_le)

theorem expireRounds_report (now : Nat) : ∀ (n : Nat) (d : ButtonDebounce),
    (expireRounds now n d).2.report = d.report
  | 0, _ => rfl
  | n + 1, d => by
    unfold expireRounds
    split
    · rfl
    · rename_i event d' h
      show (expireRounds now n (d'.handle event now).2).2.report = d.report
      rw [expireRounds_report now n, handle_report]
      obtain ⟨-, rfl, -⟩ | ⟨-, rfl, -⟩ := takeDue_some h <;> rfl

theorem expire_report (d : ButtonDebounce) (now : Nat) : (d.expire now).2.report = d.report :=
  expireRounds_report now 3 d

/-! ## What the end of a report keeps -/

/-- The debouncer that a change after a flush is handled by. -/
def seed (d : ButtonDebounce) (change : ButtonChange) : ButtonDebounce :=
  { (if d.state ≠ .disabled then d.goTo (if change.pressed then .isUp else .isDown) else d) with
    button := some change.button }

theorem endChange_flushed (several : Bool) (now : Nat) (deliver : List ButtonChange) (d : ButtonDebounce)
    (change : ButtonChange) :
    endChange several now (deliver, true, d) change =
      let r := (d.seed change).handle (if change.pressed then .press else .release) now
      if several then (deliver ++ (r.1.toList ++ (r.2.handle .otherButton now).1.toList), true,
        (r.2.handle .otherButton now).2)
      else (deliver ++ r.1.toList, decide (d.state = .disabled), r.2) := by
  unfold endChange seed
  by_cases hd : d.state = .disabled <;> simp [hd]

/-- The debouncer whose timers have run and whose report is taken. -/
def taken (d : ButtonDebounce) (now : Nat) : ButtonDebounce := { (d.expire now).2 with report := [] }

/-- `endReport` with no change read. -/
theorem endReport_nil (now : Nat) (h : d.report = []) :
    d.endReport now = ((d.expire now).1, d.taken now) := by
  have hr := (d.expire_report now).trans h
  simp only [endReport, hr, taken]

/-- `endReport` of changes that start over: several, or one of a button not tracked. -/
theorem endReport_flush {first : ButtonChange} {rest : List ButtonChange} (now : Nat) (h : d.report = first :: rest)
    (hf : rest ≠ [] ∨ (d.taken now).button ≠ some first.button) :
    d.endReport now =
      let acc := (first :: rest).foldl (endChange (decide (rest ≠ [])) now)
        ((d.expire now).1 ++ ((d.taken now).handle .otherButton now).1.toList, true,
          ((d.taken now).handle .otherButton now).2)
      (acc.1, acc.2.2) := by
  have hr := (d.expire_report now).trans h
  have hs : decide (1 < (first :: rest).length) = decide (rest ≠ []) := by
    cases rest <;> simp
  have hcond : (decide (rest ≠ []) || decide ((d.expire now).2.button ≠ some first.button)) = true := by
    simpa [taken] using hf
  simp only [endReport, hr, hs, hcond, if_true, taken]

/-- `endReport` of one change of the tracked button. -/
theorem endReport_one {change : ButtonChange} (now : Nat) (h : d.report = [change])
    (hb : (d.taken now).button = some change.button) :
    d.endReport now =
      ((d.expire now).1 ++ ((d.taken now).handle (if change.pressed then .press else .release) now).1.toList,
        ((d.taken now).handle (if change.pressed then .press else .release) now).2) := by
  have hr := (d.expire_report now).trans h
  have hb' : (d.expire now).2.button = some change.button := hb
  have hset : d.taken now = { (d.expire now).2 with button := some change.button, report := [] } := by
    rw [← hb']
    rfl
  rw [hset]
  simp [endReport, hr, hb', endChange]

theorem endChange_inv {I : ButtonDebounce → Prop} (hI : ∀ d event, I d → I (d.handle event now).2)
    (hset : ∀ d state button, I d → I { d with state, button }) (several : Bool)
    (acc : List ButtonChange × Bool × ButtonDebounce) (change : ButtonChange) (h : I acc.2.2) :
    I (endChange several now acc change).2.2 := by
  obtain ⟨deliver, flushed, d⟩ := acc
  unfold endChange
  have hb : ∀ b, I { (if flushed && d.state ≠ .disabled then
      (false, d.goTo (if change.pressed then .isUp else .isDown)) else (flushed, d)).2 with button := b } := by
    intro b
    split
    · exact hset d _ b h
    · exact hset d d.state b h
  cases several
  · exact hI _ _ (hb _)
  · exact hI _ _ (hI _ _ (hb _))

/-- What the events and the choice of a button keep, the end of a report keeps. -/
theorem endReport_inv {I : ButtonDebounce → Prop} (hI : ∀ d event, I d → I (d.handle event now).2)
    (hset : ∀ d state button, I d → I { d with state, button }) (d : ButtonDebounce) (h : I (d.taken now)) :
    I (d.endReport now).2 := by
  cases hr : d.report with
  | nil =>
    rw [endReport_nil now hr]
    exact h
  | cons first rest =>
    by_cases hf : rest ≠ [] ∨ (d.taken now).button ≠ some first.button
    · rw [endReport_flush now hr hf]
      refine List.foldlRecOn (motive := fun acc => I acc.2.2) (first :: rest) (endChange _ now) ?_
        (fun acc hacc change _ => endChange_inv hI hset _ acc change hacc)
      exact hI _ _ h
    · obtain ⟨rfl, hb⟩ : rest = [] ∧ (d.taken now).button = some first.button := by simpa using hf
      rw [endReport_one now hr hb]
      exact hI _ _ h

theorem endReport_quiet (d : ButtonDebounce) (now : Nat) : (d.endReport now).2.Quiet now :=
  endReport_inv (I := fun d => d.Quiet now) (fun _ event h => handle_quiet event h)
    (fun _ _ _ h => ⟨h.bounce, h.short⟩) d ⟨(d.expire_quiet now).bounce, (d.expire_quiet now).short⟩

theorem endReport_report (d : ButtonDebounce) (now : Nat) : (d.endReport now).2.report = [] :=
  endReport_inv (I := fun d => d.report = []) (fun d event h => (d.handle_report event now).trans h)
    (fun _ _ _ h => h) d rfl

end ButtonDebounce
end Debounce
end OpenLogi
