import OpenLogi.Hook.Watchdog
/-!
# CallbackWatchdog — the callback watchdog and its lazy power reads

The callback watchdog reads the power epoch on polls that find a callback entered.  `evaluateReading` is the one that
would read it on every poll, and `Polled` runs both over the same polls.  Times are milliseconds.
-/
namespace OpenLogi
namespace Hook

open OpenLogi.Lib (EveryState)

def callbackStuckBudget : Nat := 200

def callbackPollInterval : Nat := 20

def callbackObservationGap : Nat := callbackPollInterval * 5

structure StuckCallback where
  watched : Nat
  stalled : Nat
  deriving DecidableEq

structure CallbackWatchdog where
  lastPolledMs : Option Nat := none
  power : Option PowerEpoch := none
  /-- The entry being timed and how much of it was charged. -/
  entry : Option (Nat × Nat) := none

namespace CallbackWatchdog

def watchingSince (now : Nat) (power : PowerEpoch) : CallbackWatchdog :=
  { lastPolledMs := some now, power := some power }

variable (watchdog : CallbackWatchdog) (now : Nat)

def gap : Nat :=
  match watchdog.lastPolledMs with
  | none => 0
  | some last => now - last

/-- What one poll may charge, where it reads `power`. -/
def credit (power : PowerEpoch) : Nat :=
  if watchdog.power = some power then watchdog.gap now else min (watchdog.gap now) callbackObservationGap

/-- What an entry is charged after the poll. -/
def watched (entered : Nat) (power : PowerEpoch) : Nat :=
  match watchdog.entry.filter fun entry => entry.1 = entered with
  | some (_, watched) => watched + watchdog.credit now power
  | none => min (now - entered) (watchdog.credit now power)

/-- One poll; `power` is what the epoch is, read only where a callback is entered. -/
def evaluate (entered : Option Nat) (power : PowerEpoch) : CallbackWatchdog × Option StuckCallback :=
  match entered with
  | none => ({ watchdog with lastPolledMs := some now, entry := none }, none)
  | some entered =>
    let watched := watchdog.watched now entered power
    ({ lastPolledMs := some now, power := some power, entry := some (entered, watched) },
      if callbackStuckBudget ≤ watched then some { watched, stalled := now - entered } else none)

/-- The poll of a watchdog that reads the epoch every time. -/
def evaluateReading (entered : Option Nat) (power : PowerEpoch) : CallbackWatchdog × Option StuckCallback :=
  ({ (watchdog.evaluate now entered power).1 with power := some power }, (watchdog.evaluate now entered power).2)

end CallbackWatchdog

/-! ## Both over the same polls -/

structure Poll where
  now : Nat
  entered : Option Nat
  power : PowerEpoch

structure Polled where
  reading : CallbackWatchdog
  watchdog : CallbackWatchdog
  now : Nat
  /-- The epochs so far, the newest first. -/
  epochs : List PowerEpoch
  readingStuck : Option StuckCallback := none
  stuck : Option StuckCallback := none
  /-- The gap of the poll that saw the current entry first. -/
  firstGap : Nat := 0
  /-- What the reading watchdog had charged the current entry when it first reported it. -/
  reported : Option Nat := none

namespace Polled

def watchingSince (now : Nat) (power : PowerEpoch) : Polled where
  reading := .watchingSince now power
  watchdog := .watchingSince now power
  now
  epochs := [power]

variable (w : Polled) (poll : Poll)

/-- The poll finds the entry of the poll before. -/
def Continues : Prop := ∃ entered watched, w.watchdog.entry = some (entered, watched) ∧ poll.entered = some entered

instance : Decidable (w.Continues poll) :=
  decidable_of_iff (w.watchdog.entry.isSome ∧ poll.entered = w.watchdog.entry.map Prod.fst) (by
    cases h : w.watchdog.entry with
    | none => exact ⟨fun h => (nomatch h.1), fun ⟨_, _, h', _⟩ => (nomatch h.symm.trans h')⟩
    | some entry =>
      refine ⟨fun h' => ⟨entry.1, entry.2, h, h'.2⟩, ?_⟩
      rintro ⟨_, _, h', hentered⟩
      cases h.symm.trans h'
      exact ⟨rfl, hentered⟩)

def next : Polled where
  reading := (w.reading.evaluateReading poll.now poll.entered poll.power).1
  watchdog := (w.watchdog.evaluate poll.now poll.entered poll.power).1
  now := poll.now
  epochs := poll.power :: w.epochs
  readingStuck := (w.reading.evaluateReading poll.now poll.entered poll.power).2
  stuck := (w.watchdog.evaluate poll.now poll.entered poll.power).2
  firstGap := if w.Continues poll then w.firstGap else w.watchdog.gap poll.now
  reported :=
    (if w.Continues poll then w.reported else none).or
      ((w.reading.evaluateReading poll.now poll.entered poll.power).2.map StuckCallback.watched)

/-- The clock does not go back, and the epoch does not return to an earlier value. -/
def step (w : Polled) (poll : Poll) : Option Polled :=
  if w.now ≤ poll.now ∧ (poll.power ∈ w.epochs → w.epochs.head? = some poll.power) then some (w.next poll) else none

/-! ## What a run keeps -/

/-- The most that discounting one gap takes off. -/
def discount (gap : Nat) : Nat := gap - min gap callbackObservationGap

/-- The same entry, charged `lag` less. -/
def Behind (w : Polled) (lag : Nat) : Prop :=
  w.reading.entry = w.watchdog.entry.map fun entry => (entry.1, entry.2 + lag)

structure Inv (w : Polled) : Prop where
  polled : w.watchdog.lastPolledMs = some w.now ∧ w.reading.lastPolledMs = some w.now
  reading : w.reading.power = w.epochs.head?
  /-- The epoch read last is one of those so far, and the newest one where a callback was entered. -/
  power : ∃ power ∈ w.epochs, w.watchdog.power = some power
  entered : w.watchdog.entry.isSome = true → w.watchdog.power = w.epochs.head?
  behind : ∃ lag, w.Behind lag ∧ lag ≤ discount w.firstGap ∧ ∀ charged, w.reported = some charged → lag ≤ charged
  stuck : w.stuck.isSome = true ↔ ∃ entered watched, w.watchdog.entry = some (entered, watched) ∧
    callbackStuckBudget ≤ watched
  readingStuck : w.readingStuck.isSome = true ↔ ∃ entered watched, w.reading.entry = some (entered, watched) ∧
    callbackStuckBudget ≤ watched

theorem inv_watchingSince (now : Nat) (power : PowerEpoch) : (watchingSince now power).Inv where
  polled := ⟨rfl, rfl⟩
  reading := rfl
  power := ⟨power, List.mem_singleton_self power, rfl⟩
  entered h := nomatch h
  behind := ⟨0, rfl, Nat.zero_le _, fun _ h => nomatch h⟩
  stuck := ⟨fun h => (nomatch h), fun ⟨_, _, h, _⟩ => (nomatch h)⟩
  readingStuck := ⟨fun h => (nomatch h), fun ⟨_, _, h, _⟩ => (nomatch h)⟩

/-- **The two credits of a poll**: a sleep since the epoch was read last may lie before the poll's gap, never the other
way round. -/
theorem credits {w : Polled} (hi : w.Inv) {poll : Poll}
    (hfresh : poll.power ∈ w.epochs → w.epochs.head? = some poll.power) :
    w.watchdog.credit poll.now poll.power ≤ w.reading.credit poll.now poll.power ∧
      w.reading.credit poll.now poll.power ≤
        w.watchdog.credit poll.now poll.power + discount (w.watchdog.gap poll.now) ∧
      (w.watchdog.entry.isSome = true →
        w.reading.credit poll.now poll.power = w.watchdog.credit poll.now poll.power) := by
  have hgap : w.reading.gap poll.now = w.watchdog.gap poll.now := by
    rw [CallbackWatchdog.gap, CallbackWatchdog.gap, hi.polled.1, hi.polled.2]
  have hsame : w.watchdog.power = some poll.power → w.reading.power = some poll.power := by
    intro h
    obtain ⟨power, hmem, hpower⟩ := hi.power
    cases h.symm.trans hpower
    exact hi.reading.trans (hfresh hmem)
  unfold CallbackWatchdog.credit discount
  rw [hgap]
  refine ⟨?_, ?_, fun hentry => ?_⟩
  · split
    · rename_i hpower
      exact Nat.le_of_eq (by rw [if_pos (hsame hpower)])
    · split <;> omega
  · split <;> split <;> omega
  · rw [hi.reading, hi.entered hentry]

theorem watched_of_entry {watchdog : CallbackWatchdog} {now entered watched : Nat} {power : PowerEpoch}
    (h : watchdog.entry = some (entered, watched)) :
    watchdog.watched now entered power = watched + watchdog.credit now power := by
  rw [CallbackWatchdog.watched, h, Option.filter_some_pos (by simp)]

theorem watched_of_first {watchdog : CallbackWatchdog} {now entered : Nat} {power : PowerEpoch}
    (h : ∀ watched, watchdog.entry ≠ some (entered, watched)) :
    watchdog.watched now entered power = min (now - entered) (watchdog.credit now power) := by
  have hnone : (watchdog.entry.filter fun entry => entry.1 = entered) = none := by
    cases hentry : watchdog.entry with
    | none => rfl
    | some entry =>
      refine Option.filter_some_neg (decide_eq_false ?_)
      rintro rfl
      exact h entry.2 hentry
  rw [CallbackWatchdog.watched, hnone]

/-- What a poll with an entered callback makes of the lag. -/
theorem behind_next {w : Polled} (hi : w.Inv) {poll : Poll}
    (hfresh : poll.power ∈ w.epochs → w.epochs.head? = some poll.power) {entered : Nat}
    (hentered : poll.entered = some entered) :
    ∃ lag, w.reading.watched poll.now entered poll.power = w.watchdog.watched poll.now entered poll.power + lag ∧
      lag ≤ discount (w.next poll).firstGap ∧
      ∀ charged, (if w.Continues poll then w.reported else none) = some charged → lag ≤ charged := by
  obtain ⟨hle, hdiscount, hequal⟩ := credits hi hfresh
  obtain ⟨lag, hbehind, hlag, hreported⟩ := hi.behind
  by_cases hcontinues : w.Continues poll
  · obtain ⟨entered', watched, hentry, hsame⟩ := id hcontinues
    cases hentered.symm.trans hsame
    have hreading : w.reading.entry = some (entered, watched + lag) := by
      rw [hbehind, hentry, Option.map_some]
    have hcredit := hequal (by rw [hentry]; rfl)
    refine ⟨lag, ?_, ?_, fun charged h => hreported charged ?_⟩
    · rw [watched_of_entry hentry, watched_of_entry hreading, hcredit]
      omega
    · simp only [next, if_pos hcontinues]
      exact hlag
    · rwa [if_pos hcontinues] at h
  · have hfirst : ∀ watched, w.watchdog.entry ≠ some (entered, watched) := fun watched h =>
      hcontinues ⟨entered, watched, h, hentered⟩
    have hfirst' : ∀ watched, w.reading.entry ≠ some (entered, watched) := by
      intro watched h
      rw [hbehind] at h
      obtain ⟨⟨entered', watched'⟩, hentry, heq⟩ := Option.map_eq_some_iff.1 h
      cases heq
      exact hfirst watched' hentry
    refine ⟨w.reading.watched poll.now entered poll.power - w.watchdog.watched poll.now entered poll.power, ?_, ?_, ?_⟩
    · rw [watched_of_first hfirst, watched_of_first hfirst']
      omega
    · rw [watched_of_first hfirst, watched_of_first hfirst']
      simp only [next, if_neg hcontinues]
      omega
    · rw [if_neg hcontinues]
      exact fun _ h => nomatch h

/-- A poll reports exactly an entry that has reached the budget. -/
theorem stuck_iff (watchdog : CallbackWatchdog) (now : Nat) (entered : Option Nat) (power : PowerEpoch) :
    (watchdog.evaluate now entered power).2.isSome = true ↔
      ∃ entered' watched, (watchdog.evaluate now entered power).1.entry = some (entered', watched) ∧
        callbackStuckBudget ≤ watched := by
  cases entered with
  | none => exact ⟨fun h => (nomatch h), fun ⟨_, _, h, _⟩ => (nomatch h)⟩
  | some entered =>
    simp only [CallbackWatchdog.evaluate]
    constructor
    · intro h
      split at h
      · exact ⟨entered, _, rfl, ‹_›⟩
      · cases h
    · rintro ⟨_, _, ⟨⟩, hbudget⟩
      rw [if_pos hbudget]
      rfl

theorem inv_step {w w' : Polled} (poll : Poll) (hi : w.Inv) (h : w.step poll = some w') : w'.Inv := by
  unfold step at h
  split at h
  · rename_i hadmits
    cases h
    have hstuck := stuck_iff w.watchdog poll.now poll.entered poll.power
    have hreadingStuck := stuck_iff w.reading poll.now poll.entered poll.power
    cases hentered : poll.entered with
    | none =>
      have hno : ¬ w.Continues poll := by
        rintro ⟨_, _, -, h⟩
        rw [hentered] at h
        cases h
      obtain ⟨power, hmem, hpower⟩ := hi.power
      refine
        { polled := by simp only [next, CallbackWatchdog.evaluateReading, hentered]; exact ⟨rfl, rfl⟩
          reading := rfl
          power := ⟨power, List.mem_cons_of_mem _ hmem, by simp only [next, hentered]; exact hpower⟩
          entered := fun h => by simp only [next, hentered, CallbackWatchdog.evaluate] at h; cases h
          behind := ⟨0, ?_, Nat.zero_le _, fun _ h => ?_⟩
          stuck := hstuck
          readingStuck := hreadingStuck }
      · simp only [Behind, next, CallbackWatchdog.evaluateReading, hentered]
        rfl
      · simp only [next, hentered, CallbackWatchdog.evaluateReading, if_neg hno] at h
        cases h
    | some entered =>
      obtain ⟨lag, hlag, hdiscount, hreported⟩ := behind_next hi hadmits.2 hentered
      have hentry : (w.next poll).watchdog.entry =
          some (entered, w.watchdog.watched poll.now entered poll.power) := by
        simp only [next, hentered, CallbackWatchdog.evaluate]
      have hreading : (w.next poll).reading.entry =
          some (entered, w.reading.watched poll.now entered poll.power) := by
        simp only [next, hentered, CallbackWatchdog.evaluate, CallbackWatchdog.evaluateReading]
      have hpower : (w.next poll).watchdog.power = some poll.power := by
        simp only [next, hentered, CallbackWatchdog.evaluate]
      refine
        { polled := by simp only [next, CallbackWatchdog.evaluateReading, hentered]; exact ⟨rfl, rfl⟩
          reading := rfl
          power := ⟨poll.power, List.mem_cons_self, hpower⟩
          entered := fun _ => hpower
          behind := ⟨lag, ?_, hdiscount, fun charged h => ?_⟩
          stuck := hstuck
          readingStuck := hreadingStuck }
      · rw [Behind, hreading, hentry, hlag]
        rfl
      · rcases Option.or_eq_some_iff.1 h with hkept | ⟨-, hnew⟩
        · exact hreported charged hkept
        · obtain ⟨found, hfound, rfl⟩ := Option.map_eq_some_iff.1 hnew
          simp only [CallbackWatchdog.evaluateReading, hentered, CallbackWatchdog.evaluate] at hfound
          split at hfound
          · cases hfound
            rw [hlag]
            exact Nat.le_add_left _ _
          · cases hfound
  · cases h

/-- **The lazy watchdog against the one that reads every time**: what each has charged the entry under watch, and what
each reports. -/
structure Refines (w : Polled) : Prop where
  idle : w.watchdog.entry = none → w.reading.entry = none
  charges : ∀ entered watched, w.watchdog.entry = some (entered, watched) →
    ∃ charged, w.reading.entry = some (entered, charged) ∧ watched ≤ charged ∧
      charged ≤ watched + discount w.firstGap
  reports : w.stuck.isSome = true → w.readingStuck.isSome = true
  /-- A further budget charged after the reading one's first report, the lazy one reports too. -/
  late : ∀ charged entered total, w.reported = some charged → w.reading.entry = some (entered, total) →
    charged + callbackStuckBudget ≤ total → w.stuck.isSome = true

theorem Inv.refines {w : Polled} (hi : w.Inv) : w.Refines := by
  obtain ⟨lag, hbehind, hlag, hreported⟩ := hi.behind
  refine
    { idle := fun h => by rw [hbehind, h]; rfl
      charges := fun entered watched h => ⟨watched + lag, by rw [hbehind, h]; rfl, by omega, by omega⟩
      reports := fun h => ?_
      late := fun charged entered total hc ht hle => ?_ }
  · obtain ⟨entered, watched, hentry, hbudget⟩ := hi.stuck.1 h
    refine hi.readingStuck.2 ⟨entered, watched + lag, by rw [hbehind, hentry]; rfl, ?_⟩
    omega
  · rw [hbehind] at ht
    obtain ⟨⟨entered', watched⟩, hentry, heq⟩ := Option.map_eq_some_iff.1 ht
    cases heq
    have := hreported charged hc
    exact hi.stuck.2 ⟨entered', watched, hentry, by omega⟩

/-- **Lazy power reads never report early**, and report a further budget of watched time late at most. -/
theorem lazy_reads_refine (now : Nat) (power : PowerEpoch) (polls : List Poll) :
    EveryState step Refines (watchingSince now power) polls := by
  intro pre w hpre hrun
  exact (Lib.run_inv Inv (fun _ poll _ hi h => inv_step poll hi h) pre _ w (inv_watchingSince now power) hrun).refines

end Polled

end Hook
end OpenLogi
