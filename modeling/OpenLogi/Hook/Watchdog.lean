import OpenLogi.Lib.Run
/-!
# Watchdog — the stalls the lifecycle watchdog charges

`LifecycleWatchdog` charges a stall the time it was awake to see and exits for one that reaches its budget.  `Watch` is
a run of its evaluations; its `Sighting` is not in the code and says since when the stall under watch is the one seen.
Durations are nanoseconds.
-/
namespace OpenLogi
namespace Hook

open OpenLogi.Lib (Along EveryState)

def tapShutdownBudget : Nat := 1500000000

def tapProbeBudget : Nat := 10000000000

def lifecyclePollInterval : Nat := 100000000

def observationGap : Nat := lifecyclePollInterval * 5

inductive TapPhase where
  | starting | arming | armed | probing | tapStopped | threadExited
  deriving DecidableEq

/-- The kernel's last sleep and wake, compared for equality only. -/
structure PowerEpoch where
  sleptUs : Int := 0
  wokeUs : Int := 0
  deriving DecidableEq

structure LifecycleObservation where
  phase : TapPhase
  stopRequested : Bool
  tapProgressAt : Nat
  power : PowerEpoch := {}

inductive LifecycleExitReason where
  | tapThreadStalled | stopTimedOut
  deriving DecidableEq

inductive LifecycleDecision where
  | proceed
  | complete
  | exit (reason : LifecycleExitReason) (watched stalled : Nat)
  deriving DecidableEq

/-- What makes two sightings sightings of one stall. -/
structure StallKey where
  reason : LifecycleExitReason
  started : Nat
  budget : Nat
  deriving DecidableEq

structure Stall where
  key : StallKey
  watched : Nat
  largestGap : Nat

def budgetFor (phase : TapPhase) : Nat := if phase = .probing then tapProbeBudget else tapShutdownBudget

structure LifecycleWatchdog where
  stopAt : Option Nat := none
  lastEvaluated : Option (Nat × PowerEpoch) := none
  stall : Option Stall := none

namespace LifecycleWatchdog

variable (watchdog : LifecycleWatchdog) (now : Nat) (observation : LifecycleObservation)

/-- The time since the previous evaluation. -/
def gap : Nat :=
  match watchdog.lastEvaluated with
  | none => 0
  | some (last, _) => now - last

/-- A sleep or wake fell into the gap. -/
def slept : Bool :=
  match watchdog.lastEvaluated with
  | none => false
  | some (_, power) => power != observation.power

/-- What one evaluation may charge. -/
def credit : Nat :=
  if watchdog.slept observation then min (watchdog.gap now) observationGap else watchdog.gap now

/-- The phases that decide before any stall is timed. -/
def early : Option LifecycleDecision :=
  match observation.phase with
  | .starting => some .proceed
  | .threadExited => some .complete
  | .tapStopped => if observation.stopRequested then none else some .complete
  | .arming | .armed | .probing => none

/-- When a stop was first seen requested. -/
def stopSeen : Option Nat :=
  if observation.stopRequested then some (watchdog.stopAt.getD now) else watchdog.stopAt

/-- Starting and exited threads are not asked about a stop. -/
def stopAtAfter : Option Nat :=
  match observation.phase with
  | .starting | .threadExited => watchdog.stopAt
  | .arming | .armed | .probing | .tapStopped => watchdog.stopSeen now observation

def timeout : Option (LifecycleExitReason × Nat) :=
  match watchdog.stopSeen now observation with
  | some stopped => some (.stopTimedOut, stopped)
  | none =>
    match observation.phase with
    | .arming | .armed | .probing => some (.tapThreadStalled, observation.tapProgressAt)
    | .starting | .tapStopped | .threadExited => none

/-- The stall an evaluation times. -/
def timed : Option StallKey :=
  if (early observation).isSome then none
  else (watchdog.timeout now observation).map fun (reason, started) =>
    { reason, started, budget := budgetFor observation.phase }

/-- The stall after it is charged. -/
def charge (key : StallKey) : Stall :=
  let gap := watchdog.gap now
  let credit := watchdog.credit now observation
  match watchdog.stall.filter fun stall => stall.key = key with
  | some stall => { key, watched := stall.watched + credit, largestGap := max stall.largestGap gap }
  | none => { key, watched := min (now - key.started) credit, largestGap := min (now - key.started) gap }

def evaluate : LifecycleWatchdog × LifecycleDecision :=
  let evaluated : LifecycleWatchdog :=
    { watchdog with
      lastEvaluated := some (now, observation.power), stopAt := watchdog.stopAtAfter now observation }
  match early observation with
  | some decision => (evaluated, decision)
  | none =>
    match watchdog.timed now observation with
    | none => ({ evaluated with stall := none }, .proceed)
    | some key =>
      let stall := watchdog.charge now observation key
      ({ evaluated with stall := some stall },
        if key.budget ≤ stall.watched then .exit key.reason stall.watched (now - key.started) else .proceed)

/-- Whether the stall an exit was decided on still stands in an observation read after it. -/
def stillStalled (fresh : LifecycleObservation) : Bool :=
  match watchdog.stall with
  | none => false
  | some stall =>
    decide (budgetFor fresh.phase = stall.key.budget) &&
      match stall.key.reason with
      | .tapThreadStalled =>
        (match fresh.phase with
          | .arming | .armed | .probing => true
          | .starting | .tapStopped | .threadExited => false) && decide (fresh.tapProgressAt = stall.key.started)
      | .stopTimedOut => decide (fresh.phase ≠ .threadExited)

end LifecycleWatchdog

/-! ## A run of evaluations -/

/-- Since when the stall under watch is the one seen. -/
structure Sighting where
  /-- The evaluation before the one that saw it first, or that one where it had none before it. -/
  seenAfter : Nat
  /-- The latest evaluation saw it. -/
  current : Bool
  /-- Every evaluation since saw it, with no sleep or wake in their gaps. -/
  steady : Bool
  /-- How many evaluations since saw it at least a poll after the evaluation before. -/
  polls : Nat

structure Watch where
  watchdog : LifecycleWatchdog := {}
  now : Nat := 0
  decision : LifecycleDecision := .proceed
  sighting : Sighting := ⟨0, false, false, 0⟩
  /-- The evaluations that timed a stall, and the stall each timed. -/
  timed : List (Nat × StallKey) := []
  /-- The evaluations that saw a stop requested. -/
  stops : List Nat := []
  /-- The progress mark seen last. -/
  progressAt : Nat := 0

namespace Watch

variable (w : Watch) (now : Nat) (observation : LifecycleObservation)

/-- The stall under watch is `key`. -/
def Watches (key : StallKey) : Prop := w.watchdog.stall.map Stall.key = some key

instance (key : StallKey) : Decidable (w.Watches key) := inferInstanceAs (Decidable (_ = _))

def sighted (key : StallKey) : Sighting :=
  if w.Watches key then
    { w.sighting with
      current := true, steady := w.sighting.steady && !w.watchdog.slept observation
      polls := w.sighting.polls + if lifecyclePollInterval ≤ w.watchdog.gap now then 1 else 0 }
  else
    { seenAfter := (w.watchdog.lastEvaluated.map Prod.fst).getD now
      current := true, steady := !w.watchdog.slept observation, polls := 0 }

def next : Watch where
  watchdog := (w.watchdog.evaluate now observation).1
  now
  decision := (w.watchdog.evaluate now observation).2
  sighting :=
    match w.watchdog.timed now observation with
    | some key => w.sighted now observation key
    | none => { w.sighting with current := false, steady := false }
  timed := w.timed ++ ((w.watchdog.timed now observation).map fun key => (now, key)).toList
  stops := if observation.stopRequested then w.stops ++ [now] else w.stops
  progressAt := observation.tapProgressAt

/-- The clock does not go back, and a progress mark was made before it is read. -/
def step (w : Watch) (e : Nat × LifecycleObservation) : Option Watch :=
  if w.now ≤ e.1 ∧ e.2.tapProgressAt ≤ e.1 then some (w.next e.1 e.2) else none

end Watch

/-! ## One evaluation -/

namespace LifecycleWatchdog

variable {watchdog : LifecycleWatchdog} {now : Nat} {observation : LifecycleObservation}

theorem credit_le_gap : watchdog.credit now observation ≤ watchdog.gap now := by
  unfold credit
  split <;> omega

theorem credit_le_observationGap (h : watchdog.slept observation = true) :
    watchdog.credit now observation ≤ observationGap := by
  rw [credit, if_pos h]
  exact Nat.min_le_right _ _

theorem credit_of_awake (h : watchdog.slept observation = false) :
    watchdog.credit now observation = watchdog.gap now := by
  rw [credit, if_neg (by simp [h])]

/-- A gap of a poll or more is charged a poll or more. -/
theorem poll_le_credit (h : lifecyclePollInterval ≤ watchdog.gap now) :
    lifecyclePollInterval ≤ watchdog.credit now observation := by
  have hpoll : lifecyclePollInterval ≤ observationGap := by decide
  unfold credit
  split
  · exact Nat.le_min.2 ⟨h, hpoll⟩
  · exact h

theorem evaluate_of_timed {key : StallKey} (h : watchdog.timed now observation = some key) :
    watchdog.evaluate now observation =
      ({ stopAt := watchdog.stopAtAfter now observation, lastEvaluated := some (now, observation.power)
         stall := some (watchdog.charge now observation key) },
        if key.budget ≤ (watchdog.charge now observation key).watched then
          .exit key.reason (watchdog.charge now observation key).watched (now - key.started)
        else .proceed) := by
  have hearly : early observation = none := by
    cases hearly : early observation with
    | none => rfl
    | some _ => rw [timed, hearly] at h; cases h
  unfold evaluate
  rw [hearly, h]

theorem evaluate_of_not_timed (h : watchdog.timed now observation = none) :
    (watchdog.evaluate now observation).1.lastEvaluated = some (now, observation.power) ∧
      (watchdog.evaluate now observation).1.stopAt = watchdog.stopAtAfter now observation ∧
      (∀ stall, (watchdog.evaluate now observation).1.stall = some stall → watchdog.stall = some stall) ∧
      ∀ reason watched stalled, (watchdog.evaluate now observation).2 ≠ .exit reason watched stalled := by
  unfold evaluate
  cases hearly : early observation with
  | some decision =>
    refine ⟨rfl, rfl, fun _ hs => hs, ?_⟩
    rintro reason watched stalled rfl
    unfold early at hearly
    split at hearly
    · cases hearly
    · cases hearly
    · split at hearly <;> cases hearly
    all_goals cases hearly
  | none =>
    simp only [h]
    exact ⟨trivial, trivial, fun _ hs => (nomatch hs), fun _ _ _ => nofun⟩

/-- What an evaluation times is judged by what it sees. -/
theorem timed_eq_some {key : StallKey} (h : watchdog.timed now observation = some key) :
    key.budget = budgetFor observation.phase ∧
      (key.reason = .tapThreadStalled → key.started = observation.tapProgressAt) ∧
      (key.reason = .stopTimedOut → watchdog.stopAtAfter now observation = some key.started) := by
  unfold timed at h
  split at h
  · cases h
  rename_i hearly
  obtain ⟨⟨reason, started⟩, htimeout, rfl⟩ := Option.map_eq_some_iff.1 h
  refine ⟨rfl, ?_, ?_⟩
  · rintro rfl
    unfold timeout at htimeout
    split at htimeout
    · cases htimeout
    · split at htimeout <;> cases htimeout <;> rfl
  · rintro rfl
    unfold timeout at htimeout
    split at htimeout
    · rename_i hstop
      cases htimeout
      unfold stopAtAfter
      split
      · rename_i hphase
        rw [early, hphase] at hearly
        exact absurd rfl hearly
      · rename_i hphase
        rw [early, hphase] at hearly
        exact absurd rfl hearly
      all_goals exact hstop
    · split at htimeout <;> cases htimeout

theorem stopAtAfter_eq_some {t : Nat} (h : watchdog.stopAtAfter now observation = some t) :
    watchdog.stopAt = some t ∨ (observation.stopRequested = true ∧ t = now) := by
  have hseen : ∀ t, watchdog.stopSeen now observation = some t →
      watchdog.stopAt = some t ∨ (observation.stopRequested = true ∧ t = now) := by
    intro t h
    unfold stopSeen at h
    split at h
    · rename_i hstop
      cases hat : watchdog.stopAt with
      | none =>
        rw [hat] at h
        cases h
        exact Or.inr ⟨hstop, rfl⟩
      | some _ =>
        rw [hat] at h
        exact Or.inl h
    · exact Or.inl h
  unfold stopAtAfter at h
  split at h
  · exact Or.inl h
  · exact Or.inl h
  all_goals exact hseen t h

end LifecycleWatchdog

/-! ## What a run keeps -/

namespace Watch

/-- From when the watchdog could have charged a stall. -/
def since (w : Watch) (key : StallKey) : Nat := max key.started w.sighting.seenAfter

variable {w : Watch} {stall : Stall} {key : StallKey} {now : Nat} {observation : LifecycleObservation}

theorem since_eq (h : stall.key = key) :
    w.since stall.key = max key.started w.sighting.seenAfter := by
  rw [h, since]

structure Inv (w : Watch) : Prop where
  last : (w.watchdog.lastEvaluated = none ∧ w.watchdog.stall = none ∧ w.timed = []) ∨
    ∃ power, w.watchdog.lastEvaluated = some (w.now, power)
  charged : ∀ stall, w.watchdog.stall = some stall → w.since stall.key ≤ w.now ∧
    stall.watched ≤ w.now - w.since stall.key ∧ w.sighting.polls * lifecyclePollInterval ≤ stall.watched
  steady : w.sighting.steady = true → w.sighting.current = true ∧ ∀ stall, w.watchdog.stall = some stall →
    stall.watched = w.now - w.since stall.key
  timed : ∀ sight ∈ w.timed, sight.1 ≤ w.now ∧
    ∀ stall, w.watchdog.stall = some stall → sight.1 ≤ w.sighting.seenAfter ∨ sight.2 = stall.key
  stopAt : ∀ t, w.watchdog.stopAt = some t → t ∈ w.stops ∧ t ≤ w.now
  current : w.sighting.current = true → ∃ stall, w.watchdog.stall = some stall ∧
    w.decision = if stall.key.budget ≤ stall.watched then
      .exit stall.key.reason stall.watched (w.now - stall.key.started) else .proceed
  exits : ∀ reason watched stalled, w.decision = .exit reason watched stalled → w.sighting.current = true
  sees : ∀ stall, w.sighting.current = true → w.watchdog.stall = some stall →
    (stall.key.reason = .tapThreadStalled → stall.key.started = w.progressAt) ∧
      (stall.key.reason = .stopTimedOut → stall.key.started ∈ w.stops)

theorem inv_init : Inv {} where
  last := Or.inl ⟨rfl, rfl, rfl⟩
  charged _ h := nomatch h
  steady h := nomatch h
  timed _ h := nomatch h
  stopAt _ h := nomatch h
  current h := nomatch h
  exits _ _ _ h := nomatch h
  sees _ h := nomatch h

/-- The gap runs from the evaluation before, if there was one. -/
theorem Inv.gap (hi : w.Inv) (h : w.watchdog.lastEvaluated ≠ none) :
    w.watchdog.gap now = now - w.now := by
  rcases hi.last with h0 | ⟨power, h0⟩
  · exact absurd h0.1 h
  · rw [LifecycleWatchdog.gap, h0]

/-- The evaluation before, and the gap from it. -/
theorem Inv.gap_seenAfter (hi : w.Inv) (hnow : w.now ≤ now) :
    w.watchdog.gap now = now - (w.watchdog.lastEvaluated.map Prod.fst).getD now ∧
      (w.watchdog.lastEvaluated.map Prod.fst).getD now ≤ now := by
  rcases hi.last with ⟨hlast, -⟩ | ⟨power, hlast⟩
  · rw [LifecycleWatchdog.gap, hlast]
    exact ⟨(Nat.sub_self now).symm, Nat.le_refl now⟩
  · rw [LifecycleWatchdog.gap, hlast]
    exact ⟨rfl, hnow⟩

theorem Inv.evaluated (hi : w.Inv) (h : w.watchdog.stall = some stall) :
    w.watchdog.lastEvaluated ≠ none := by
  rcases hi.last with h0 | ⟨power, h0⟩
  · rw [h0.2.1] at h
    cases h
  · rw [h0]
    exact nofun

theorem inv_stopAt (hi : w.Inv) (observation : LifecycleObservation) (hnow : w.now ≤ now) (t : Nat)
    (h : w.watchdog.stopAtAfter now observation = some t) :
    t ∈ (w.next now observation).stops ∧ t ≤ now := by
  rcases LifecycleWatchdog.stopAtAfter_eq_some h with h | ⟨hstop, rfl⟩
  · obtain ⟨hmem, hle⟩ := hi.stopAt t h
    refine ⟨?_, Nat.le_trans hle hnow⟩
    simp only [next]
    split
    · exact List.mem_append_left _ hmem
    · exact hmem
  · refine ⟨?_, Nat.le_refl t⟩
    simp only [next, hstop, if_true]
    exact List.mem_append_right _ (List.mem_singleton_self t)

/-- An evaluation that times nothing. -/
theorem inv_next_of_not_timed (hi : w.Inv) (hnow : w.now ≤ now) (h : w.watchdog.timed now observation = none) :
    (w.next now observation).Inv := by
  obtain ⟨hlast, hstop, hstall, hdecision⟩ := LifecycleWatchdog.evaluate_of_not_timed h
  have hstops := fun t => inv_stopAt hi observation hnow t
  have hsighting : (w.next now observation).sighting = { w.sighting with current := false, steady := false } := by
    simp only [next, h]
  have htimed : (w.next now observation).timed = w.timed := by
    simp only [next, h, Option.map_none, Option.toList_none, List.append_nil]
  refine
    { last := Or.inr ⟨_, hlast⟩
      charged := fun stall hs => ?_
      steady := fun hs => by rw [hsighting] at hs; cases hs
      timed := fun sight hmem => ?_
      stopAt := fun t ht => hstops t (hstop ▸ ht)
      current := fun hs => by rw [hsighting] at hs; cases hs
      exits := fun reason watched stalled hd => absurd hd (hdecision reason watched stalled)
      sees := fun _ hs => by rw [hsighting] at hs; cases hs }
  · obtain ⟨hle, hwatched, hpolls⟩ := hi.charged stall (hstall stall hs)
    unfold since at hle hwatched ⊢
    rw [hsighting]
    simp only [next]
    exact ⟨by omega, by omega, hpolls⟩
  · rw [htimed] at hmem
    obtain ⟨hle, hkeys⟩ := hi.timed sight hmem
    rw [hsighting]
    exact ⟨Nat.le_trans hle hnow, fun stall hs => hkeys stall (hstall stall hs)⟩

/-- The stall seen before is charged on. -/
theorem charge_of_watches (hstall : w.watchdog.stall = some stall) (hkey : stall.key = key) :
    (w.watchdog.charge now observation key).watched = stall.watched + w.watchdog.credit now observation := by
  unfold LifecycleWatchdog.charge
  rw [hstall, Option.filter_some_pos (by simpa using hkey)]

/-- A stall seen for the first time is charged at most one credit for what preceded. -/
theorem charge_of_not_watches (h : ¬ w.Watches key) :
    (w.watchdog.charge now observation key).watched = min (now - key.started) (w.watchdog.credit now observation) := by
  have hnone : (w.watchdog.stall.filter fun stall => stall.key = key) = none := by
    cases hstall : w.watchdog.stall with
    | none => rfl
    | some stall =>
      refine Option.filter_some_neg (decide_eq_false fun hkey => h ?_)
      rw [Watches, hstall, Option.map_some, hkey]
  unfold LifecycleWatchdog.charge
  rw [hnone]

theorem charge_key (watchdog : LifecycleWatchdog) (now : Nat) (observation : LifecycleObservation) (key : StallKey) :
    (watchdog.charge now observation key).key = key := by
  unfold LifecycleWatchdog.charge
  split <;> rfl

/-- **What an evaluation makes of the stall it times.** -/
theorem charge_spec (hi : w.Inv) (observation : LifecycleObservation) (hnow : w.now ≤ now)
    (hstarted : key.started ≤ now) {since watched : Nat}
    (hsince : since = max key.started (w.sighted now observation key).seenAfter)
    (hwatched : watched = (w.watchdog.charge now observation key).watched) :
    since ≤ now ∧ watched ≤ now - since ∧
      (w.sighted now observation key).polls * lifecyclePollInterval ≤ watched ∧
      ((w.sighted now observation key).steady = true → watched = now - since) := by
  have hcredit : w.watchdog.credit now observation ≤ w.watchdog.gap now := LifecycleWatchdog.credit_le_gap
  by_cases hseen : w.Watches key
  · obtain ⟨stall, hstall, hkey⟩ := Option.map_eq_some_iff.1 hseen
    have hgap : w.watchdog.gap now = now - w.now := hi.gap (hi.evaluated hstall)
    obtain ⟨hle, hbefore, hpolls⟩ := hi.charged stall hstall
    rw [since_eq hkey] at hle hbefore
    rw [charge_of_watches hstall hkey] at hwatched
    rw [sighted, if_pos hseen] at hsince ⊢
    simp only at hsince ⊢
    rw [← hsince] at hle hbefore
    refine ⟨by omega, by omega, ?_, fun hsteady => ?_⟩
    · split
      · rename_i hpoll
        have hcharged : lifecyclePollInterval ≤ w.watchdog.credit now observation :=
          LifecycleWatchdog.poll_le_credit hpoll
        rw [Nat.add_mul]
        omega
      · rw [Nat.add_zero]
        omega
    · rw [Bool.and_eq_true, Bool.not_eq_true'] at hsteady
      have hexact := (hi.steady hsteady.1).2 stall hstall
      rw [since_eq hkey, ← hsince] at hexact
      have hfull : w.watchdog.credit now observation = w.watchdog.gap now := LifecycleWatchdog.credit_of_awake hsteady.2
      omega
  · obtain ⟨hgap, hlast⟩ := hi.gap_seenAfter hnow
    rw [charge_of_not_watches hseen] at hwatched
    rw [sighted, if_neg hseen] at hsince ⊢
    simp only at hsince ⊢
    refine ⟨by omega, by omega, by omega, fun hsteady => ?_⟩
    have hfull : w.watchdog.credit now observation = w.watchdog.gap now :=
      LifecycleWatchdog.credit_of_awake (by simpa using hsteady)
    omega

/-- What timed another stall came before the sighting. -/
theorem Inv.sighted_covers (hi : w.Inv) {sight : Nat × StallKey} (hmem : sight ∈ w.timed) :
    sight.1 ≤ (w.sighted now observation key).seenAfter ∨ sight.2 = key := by
  by_cases hseen : w.Watches key
  · obtain ⟨stall, hstall, hkey⟩ := Option.map_eq_some_iff.1 hseen
    rw [sighted, if_pos hseen, ← hkey]
    exact (hi.timed sight hmem).2 stall hstall
  · rw [sighted, if_neg hseen]
    refine Or.inl ?_
    rcases hi.last with ⟨-, -, htimed⟩ | ⟨power, hlast⟩
    · rw [htimed] at hmem
      cases hmem
    · rw [hlast]
      exact (hi.timed sight hmem).1

/-- An evaluation that times a stall. -/
theorem inv_next_of_timed (hi : w.Inv) (hnow : w.now ≤ now) (hmark : observation.tapProgressAt ≤ now)
    (h : w.watchdog.timed now observation = some key) : (w.next now observation).Inv := by
  obtain ⟨-, hprogress, hstop⟩ := LifecycleWatchdog.timed_eq_some h
  have hstops := fun t => inv_stopAt hi observation hnow t
  have hstarted : key.started ≤ now := by
    cases hreason : key.reason with
    | tapThreadStalled => exact hprogress hreason ▸ hmark
    | stopTimedOut => exact (hstops _ (hstop hreason)).2
  have hevaluate := LifecycleWatchdog.evaluate_of_timed h
  have hsighting : (w.next now observation).sighting = w.sighted now observation key := by
    simp only [next, h]
  have hstall : (w.next now observation).watchdog.stall = some (w.watchdog.charge now observation key) := by
    simp only [next, hevaluate]
  have hkey := charge_key w.watchdog now observation key
  have hcurrent : (w.sighted now observation key).current = true := by
    unfold sighted
    split <;> rfl
  obtain ⟨hle, hwatched, hpolls, hsteady⟩ := charge_spec hi observation hnow hstarted rfl rfl
  have heq : ∀ stall, (w.next now observation).watchdog.stall = some stall →
      stall = w.watchdog.charge now observation key := fun stall hs => Option.some.inj (hs.symm.trans hstall)
  have hsince : ∀ stall : Stall, stall.key = key → (w.next now observation).since stall.key =
      max key.started (w.sighted now observation key).seenAfter := fun stall hs => by rw [since, hsighting, hs]
  refine
    { last := Or.inr ⟨observation.power, by simp only [next, hevaluate]⟩
      charged := fun stall hs => ?_
      steady := fun hs => ⟨hsighting ▸ hcurrent, fun stall hstall' => ?_⟩
      timed := fun sight hmem => ?_
      stopAt := fun t ht => hstops t (by simpa only [next, hevaluate] using ht)
      current := fun _ => ⟨_, hstall, by simp only [next, hevaluate, hkey]⟩
      exits := fun _ _ _ _ => hsighting ▸ hcurrent
      sees := fun stall _ hs => ?_ }
  · rw [heq stall hs, hsince _ hkey, hsighting]
    exact ⟨hle, hwatched, hpolls⟩
  · rw [heq stall hstall', hsince _ hkey]
    exact hsteady (hsighting ▸ hs)
  · have htimed : (w.next now observation).timed = w.timed ++ [(now, key)] := by
      simp only [next, h, Option.map_some, Option.toList_some]
    rw [htimed] at hmem
    rcases List.mem_append.1 hmem with hmem | hmem
    · refine ⟨Nat.le_trans (hi.timed sight hmem).1 hnow, fun stall hs => ?_⟩
      rw [heq stall hs, hkey, hsighting]
      exact hi.sighted_covers hmem
    · rw [List.mem_singleton.1 hmem]
      exact ⟨Nat.le_refl now, fun stall hs => Or.inr (by rw [heq stall hs, hkey])⟩
  · rw [heq stall hs, hkey]
    exact ⟨hprogress, fun hreason => (hstops _ (hstop hreason)).1⟩

theorem inv_step {w' : Watch} (e : Nat × LifecycleObservation) (hi : w.Inv) (h : w.step e = some w') : w'.Inv := by
  unfold step at h
  split at h
  · rename_i hadmits
    cases h
    cases htimed : w.watchdog.timed e.1 e.2 with
    | none => exact inv_next_of_not_timed hi hadmits.1 htimed
    | some key => exact inv_next_of_timed hi hadmits.1 hadmits.2 htimed
  · cases h

/-! ## What is charged -/

/-- What `key` was charged so far. -/
def chargedTo (w : Watch) (key : StallKey) : Nat :=
  match w.watchdog.stall.filter fun stall => stall.key = key with
  | some stall => stall.watched
  | none => 0

/-- The charge of an evaluation: at most the gap, and at most the capped one over a sleep or wake. -/
def Grows (w : Watch) (e : Nat × LifecycleObservation) : Prop :=
  ∀ stall, (w.next e.1 e.2).watchdog.stall = some stall →
    stall.watched ≤ w.chargedTo stall.key + w.watchdog.gap e.1 ∧
      (w.watchdog.slept e.2 = true → stall.watched ≤ w.chargedTo stall.key + observationGap)

theorem grows (w : Watch) (e : Nat × LifecycleObservation) : w.Grows e := by
  intro stall hs
  cases htimed : w.watchdog.timed e.1 e.2 with
  | none =>
    have hstall := (LifecycleWatchdog.evaluate_of_not_timed htimed).2.2.1 stall hs
    have hcharged : w.chargedTo stall.key = stall.watched := by
      rw [chargedTo, hstall, Option.filter_some_pos (by simp)]
    rw [hcharged]
    exact ⟨Nat.le_add_right _ _, fun _ => Nat.le_add_right _ _⟩
  | some key =>
    have heq : stall = w.watchdog.charge e.1 e.2 key := by
      simp only [next, LifecycleWatchdog.evaluate_of_timed htimed] at hs
      exact (Option.some.inj hs).symm
    have hwatched : stall.watched ≤ w.chargedTo stall.key + w.watchdog.credit e.1 e.2 := by
      rw [heq, charge_key]
      by_cases hseen : w.Watches key
      · obtain ⟨before, hbefore, hkey⟩ := Option.map_eq_some_iff.1 hseen
        exact Nat.le_of_eq
          (by rw [charge_of_watches hbefore hkey, chargedTo, hbefore, Option.filter_some_pos (by simpa using hkey)])
      · rw [charge_of_not_watches hseen]
        exact Nat.le_trans (Nat.min_le_right _ _) (Nat.le_add_left _ _)
    refine ⟨Nat.le_trans hwatched (Nat.add_le_add_left LifecycleWatchdog.credit_le_gap _), fun hslept => ?_⟩
    exact Nat.le_trans hwatched (Nat.add_le_add_left (LifecycleWatchdog.credit_le_observationGap hslept) _)

def Exits (w : Watch) : Prop := ∃ reason watched stalled, w.decision = .exit reason watched stalled

/-- **What the watchdog charges and exits for.** -/
structure Accounted (w : Watch) : Prop where
  uptime : ∀ stall, w.watchdog.stall = some stall → stall.watched ≤ w.now - stall.key.started
  /-- It exits for a stall that began the budget ago, and every evaluation that timed another one is as old. -/
  exits : ∀ reason watched stalled, w.decision = .exit reason watched stalled →
    ∃ stall, w.watchdog.stall = some stall ∧ stall.key.reason = reason ∧ stall.watched = watched ∧
      stalled = w.now - stall.key.started ∧ stall.key.budget ≤ watched ∧
      (reason = .tapThreadStalled → w.progressAt + stall.key.budget ≤ w.now) ∧
      (reason = .stopTimedOut → ∃ stopped ∈ w.stops, stopped + stall.key.budget ≤ w.now) ∧
      ∀ sight ∈ w.timed, sight.2 ≠ stall.key → sight.1 + stall.key.budget ≤ w.now
  /-- The observation that confirms an exit is of the same budget, and of the same mark. -/
  confirmed : ∀ reason watched stalled, w.decision = .exit reason watched stalled → ∀ fresh,
    w.watchdog.stillStalled fresh = true → ∃ stall, w.watchdog.stall = some stall ∧
      budgetFor fresh.phase = stall.key.budget ∧
      (reason = .tapThreadStalled → fresh.tapProgressAt + stall.key.budget ≤ w.now)
  /-- A stall seen throughout, with no sleep or wake, is exited as soon as its time is up. -/
  due : w.sighting.steady = true → ∃ stall, w.watchdog.stall = some stall ∧
    (w.Exits ↔ stall.key.budget ≤ w.now - max stall.key.started w.sighting.seenAfter)

theorem Inv.exit (hi : w.Inv) {reason : LifecycleExitReason} {watched stalled : Nat}
    (h : w.decision = .exit reason watched stalled) : w.sighting.current = true ∧
      ∃ stall, w.watchdog.stall = some stall ∧ stall.key.reason = reason ∧ stall.watched = watched ∧
        stalled = w.now - stall.key.started ∧ stall.key.budget ≤ stall.watched := by
  have hcurrent := hi.exits reason watched stalled h
  obtain ⟨stall, hstall, hdecision⟩ := hi.current hcurrent
  rw [h] at hdecision
  split at hdecision
  · cases hdecision
    exact ⟨hcurrent, stall, hstall, rfl, rfl, rfl, ‹_›⟩
  · cases hdecision

theorem Inv.exits_iff (hi : w.Inv) (hcurrent : w.sighting.current = true) (hstall : w.watchdog.stall = some stall) :
    w.Exits ↔ stall.key.budget ≤ stall.watched := by
  obtain ⟨stall', hstall', hdecision⟩ := hi.current hcurrent
  cases hstall.symm.trans hstall'
  constructor
  · rintro ⟨reason, watched, stalled, h⟩
    rw [hdecision] at h
    split at h
    · assumption
    · cases h
  · intro hbudget
    rw [if_pos hbudget] at hdecision
    exact ⟨_, _, _, hdecision⟩

theorem Inv.accounted (hi : w.Inv) : w.Accounted where
  uptime stall hstall := by
    obtain ⟨hle, hwatched, -⟩ := hi.charged stall hstall
    unfold since at hwatched
    omega
  exits reason watched stalled h := by
    obtain ⟨hcurrent, stall, hstall, rfl, rfl, hstalled, hbudget⟩ := hi.exit h
    obtain ⟨hle, hwatched, -⟩ := hi.charged stall hstall
    obtain ⟨hprogress, hstop⟩ := hi.sees stall hcurrent hstall
    unfold since at hle hwatched
    refine ⟨stall, hstall, rfl, rfl, hstalled, hbudget, fun hreason => ?_, fun hreason => ?_, fun sight hmem hne => ?_⟩
    · rw [← hprogress hreason]
      omega
    · exact ⟨stall.key.started, hstop hreason, by omega⟩
    · have := ((hi.timed sight hmem).2 stall hstall).resolve_right hne
      omega
  confirmed reason watched stalled h fresh hfresh := by
    obtain ⟨-, stall, hstall, rfl, rfl, -, hbudget⟩ := hi.exit h
    obtain ⟨hle, hwatched, -⟩ := hi.charged stall hstall
    unfold since at hle hwatched
    simp only [LifecycleWatchdog.stillStalled, hstall, Bool.and_eq_true, decide_eq_true_eq] at hfresh
    refine ⟨stall, hstall, hfresh.1, fun hreason => ?_⟩
    have hmark := hfresh.2
    simp only [hreason, Bool.and_eq_true, decide_eq_true_eq] at hmark
    omega
  due hsteady := by
    obtain ⟨hcurrent, hexact⟩ := hi.steady hsteady
    obtain ⟨stall, hstall, -⟩ := hi.current hcurrent
    refine ⟨stall, hstall, ?_⟩
    rw [hi.exits_iff hcurrent hstall, hexact stall hstall, since]

/-! ## A stall that stays -/

/-- An evaluation a poll or more after the one before that times `key`. -/
def Polls (key : StallKey) (w : Watch) (e : Nat × LifecycleObservation) : Prop :=
  w.watchdog.timed e.1 e.2 = some key ∧ lifecyclePollInterval ≤ w.watchdog.gap e.1

/-- The evaluations that saw `key` without a break, each a poll apart. -/
def looks (w : Watch) (key : StallKey) : Nat := if w.Watches key then w.sighting.polls + 1 else 0

theorem looks_next {e : Nat × LifecycleObservation} (h : w.Polls key e) :
    (w.next e.1 e.2).looks key = w.looks key + 1 ∧ (w.next e.1 e.2).sighting.current = true := by
  have hsighting : (w.next e.1 e.2).sighting = w.sighted e.1 e.2 key := by
    simp only [next, h.1]
  have hwatches : (w.next e.1 e.2).Watches key := by
    unfold Watches
    simp only [next, LifecycleWatchdog.evaluate_of_timed h.1, Option.map_some, charge_key]
  rw [looks, if_pos hwatches, hsighting, sighted, looks]
  by_cases hseen : w.Watches key
  · rw [if_pos hseen, if_pos hseen]
    exact ⟨by simp only [if_pos h.2], rfl⟩
  · rw [if_neg hseen, if_neg hseen]
    exact ⟨rfl, rfl⟩

theorem looks_run : ∀ (es : List (Nat × LifecycleObservation)) (w w' : Watch), es ≠ [] →
    Along step (Polls key) w es → Lib.run step w es = some w' →
    w.looks key + es.length = w'.looks key ∧ w'.sighting.current = true
  | [], _, _, hne, _, _ => absurd rfl hne
  | e :: es, w, w', _, hpolls, hrun => by
    obtain ⟨t, ht, hrest⟩ := Lib.run_cons hrun
    have hnext : t = w.next e.1 e.2 := by
      unfold step at ht
      split at ht
      · exact (Option.some.inj ht).symm
      · cases ht
    obtain ⟨hlooks, hcurrent⟩ := looks_next hpolls.1
    rw [← hnext] at hlooks hcurrent
    cases es with
    | nil =>
      cases hrest
      exact ⟨hlooks.symm, hcurrent⟩
    | cons e' es =>
      obtain ⟨hlast, hcurrent'⟩ := looks_run (e' :: es) t w' (by simp) (hpolls.2 t ht) hrest
      rw [List.length_cons (a := e)]
      exact ⟨by omega, hcurrent'⟩

/-- Evaluations a poll apart that all see one stall end in an exit once they outlast its budget. -/
def ExitsIn (w : Watch) (key : StallKey) (es : List (Nat × LifecycleObservation)) : Prop :=
  Along step (Polls key) w es → key.budget + lifecyclePollInterval ≤ es.length * lifecyclePollInterval →
    ∀ w', Lib.run step w es = some w' → w'.Exits

theorem Inv.exitsIn (hi : w.Inv) (key : StallKey) (es : List (Nat × LifecycleObservation)) :
    w.ExitsIn key es := by
  intro hpolls hlength w' hrun
  have hpos : 0 < lifecyclePollInterval := by decide
  have hne : es ≠ [] := by
    rintro rfl
    simp only [List.length_nil, Nat.zero_mul] at hlength
    omega
  have hi' : w'.Inv := Lib.run_inv Inv (fun _ e _ hi h => inv_step e hi h) es w w' hi hrun
  obtain ⟨hlooks, hcurrent⟩ := looks_run es w w' hne hpolls hrun
  have hwatches : w'.Watches key := by
    by_contra hno
    have hzero : w'.looks key = 0 := if_neg hno
    have := List.length_pos_iff.2 hne
    omega
  obtain ⟨stall, hstall, hkey⟩ := Option.map_eq_some_iff.1 hwatches
  have hseen : es.length ≤ w'.sighting.polls + 1 := by
    have hsome : w'.looks key = w'.sighting.polls + 1 := if_pos hwatches
    omega
  refine (hi'.exits_iff hcurrent hstall).2 ?_
  have hcharged := (hi'.charged stall hstall).2.2
  have hmul := Nat.mul_le_mul_right lifecyclePollInterval hseen
  rw [Nat.add_mul] at hmul
  rw [hkey]
  omega

/-- **The lifecycle watchdog's account**, over every run of evaluations. -/
theorem lifecycle_accounted (es : List (Nat × LifecycleObservation)) :
    EveryState step Accounted {} es ∧ Along step Grows {} es ∧
      ∀ key more, EveryState step (fun w => w.ExitsIn key more) {} es := by
  have hinv : EveryState step Inv {} es := fun pre w _ hrun =>
    Lib.run_inv Inv (fun _ e _ hi h => inv_step e hi h) pre {} w inv_init hrun
  refine ⟨hinv.imp fun _ hi => hi.accounted, ?_, fun key more => hinv.imp fun _ hi => hi.exitsIn key more⟩
  exact Lib.along_of_inv (fun _ => True) (fun w e _ => w.grows e) (fun _ _ _ _ _ => trivial) trivial

/-! ### A thread that marks progress under a stop request -/

/-- No exit is decided less than the budget after the progress mark it reads. -/
def SparesProgress (w : Watch) : Prop :=
  ∀ reason watched stalled, w.decision = .exit reason watched stalled → ∃ stall, w.watchdog.stall = some stall ∧
    w.progressAt + stall.key.budget ≤ w.now

/-- A tap thread that goes on marking progress and never answers the stop. -/
def stopUnanswered : List (Nat × LifecycleObservation) :=
  [(0, { phase := .armed, stopRequested := true, tapProgressAt := 0 }),
    (1500000000, { phase := .armed, stopRequested := true, tapProgressAt := 1400000000 })]

/-- A mark that is read ahead of the clock. -/
def markAhead : LifecycleObservation := { phase := .armed, stopRequested := false, tapProgressAt := 10 }

/-- **A stop's budget runs from the stop**: progress since does not put the exit off.  And a stall that begins after
it is first seen is charged more than its uptime. -/
theorem stop_ignores_progress : (¬ ∀ es, EveryState step SparesProgress {} es) ∧
    ∃ stall, ((({} : LifecycleWatchdog).evaluate 0 markAhead).1.evaluate 11 markAhead).1.stall = some stall ∧
      11 - stall.key.started < stall.watched := by
  refine ⟨fun h => ?_, ⟨⟨.tapThreadStalled, 10, tapShutdownBudget⟩, 11, 11⟩, rfl, by decide⟩
  obtain ⟨w, hw⟩ : ∃ w, Lib.run step {} stopUnanswered = some w := ⟨_, rfl⟩
  have hspared := h stopUnanswered stopUnanswered w List.prefix_rfl hw
  cases hw
  obtain ⟨stall, hstall, hle⟩ := hspared .stopTimedOut 1500000000 1500000000 rfl
  cases hstall
  exact absurd hle (by decide)

end Watch

end Hook
end OpenLogi
