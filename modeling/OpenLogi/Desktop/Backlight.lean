import OpenLogi.Core.Backlight
import OpenLogi.Desktop.Load
/-!
# Backlight — the backlight the panel shows while changes are under way

One keyboard's backlight read, the changes sent on its connection and the panel's view of both.  An answer covers the
changes sent before its own too; the cache's entry holds the last reading or the state a change predicts.

`Ledger` is not in the code.  It records which reading was taken last, what was made of it since, and whether the
answers taken leave a re-read owed.
-/
namespace OpenLogi
namespace Desktop

open OpenLogi.Core (BacklightState BacklightChange)
open OpenLogi.Lib (EveryState)

variable {R E : Type}

/-! ## The read -/

/-- `changes` over `state`, each where it is accepted. -/
def showChanges (changes : List BacklightChange) (state : BacklightState) : BacklightState :=
  changes.foldl (fun shown change => if shown.accepts change then shown.changed change else shown) state

structure BacklightWrites where
  pending : List (Nat × BacklightChange) := []
  answered : Nat := 0
  refreshAfterPending : Bool := false

def BacklightWrites.shown (writes : BacklightWrites) (state : BacklightState) : BacklightState :=
  showChanges (writes.pending.map Prod.snd) state

structure DeviceRead (R : Type) where
  route : R
  flight : Nat
  load : Load BacklightState

/-- The part of the device reads that is one keyboard's backlight, with its entry of the cache. -/
structure DeviceReads (R E : Type) where
  nextFlight : Nat := 0
  backlight : Option (DeviceRead R) := none
  backlightWrites : Option BacklightWrites := none
  nextBacklightWrite : Nat := 0
  query : QueryState BacklightState E := {}

namespace DeviceReads

variable (reads : DeviceReads R E)

/-- The writes of the keyboard, none where it has no entry. -/
def writes : BacklightWrites := reads.backlightWrites.getD {}

def removeBacklight : DeviceReads R E :=
  { reads with
    backlightWrites := none, backlight := none
    query := if reads.backlight.isSome then { reads.query with data := none } else reads.query }

/-- A read on `route`, over whatever the cache holds once it is subscribed. -/
def subscribe [ReadError E] (route : R) : DeviceReads R E :=
  { reads with
    nextFlight := reads.nextFlight + 1
    backlight := some { route, flight := reads.nextFlight, load := projectLoad reads.query } }

def onRoute [DecidableEq R] (route : R) : Option (DeviceRead R) :=
  reads.backlight.filter fun read => read.route = route

def ensureBacklight [DecidableEq R] [ReadError E] (route : R) : DeviceReads R E :=
  if (reads.onRoute route).isSome then reads else reads.removeBacklight.subscribe route

def backlightLoad : Load BacklightState :=
  match reads.backlight with
  | some read => read.load
  | none => .unknown

def beginBacklightWrite [DecidableEq R] (route : R) (change : BacklightChange) (shown : BacklightState) :
    Option (DeviceReads R E) :=
  (reads.onRoute route).map fun read =>
    let write := reads.nextBacklightWrite + 1
    { reads with
      backlight := some { read with load := .ready shown }
      nextBacklightWrite := write
      backlightWrites := some { reads.writes with pending := reads.writes.pending ++ [(write, change)] }
      query := { reads.query with data := some shown } }

/-- What an answer leaves of the writes. -/
def answer (write : Nat) : BacklightWrites :=
  { reads.writes with answered := write, pending := reads.writes.pending.filter fun sent => write < sent.1 }

/-- Whether the answer's readback is not trusted, a revision having come in before it. -/
def refreshes (write : Nat) : Bool := (reads.answer write).pending.isEmpty && reads.writes.refreshAfterPending

/-- Whether the answer to `write` is taken. -/
def takes [DecidableEq R] (route : R) (write : Nat) : Bool :=
  (reads.onRoute route).isSome && decide (reads.writes.answered < write)

def finishBacklightWrite [DecidableEq R] (route : R) (write : Nat) (readBack : Option BacklightState) :
    DeviceReads R E :=
  match reads.onRoute route with
  | none => reads
  | some read =>
    if reads.takes route write = false then { reads with backlightWrites := some reads.writes }
    else if reads.refreshes write then
      { reads with backlightWrites := some { reads.answer write with refreshAfterPending := false } }
    else
      let answered : DeviceReads R E := { reads with backlightWrites := some (reads.answer write) }
      match readBack with
      | some state =>
        { answered with
          backlight := some { read with load := .ready ((reads.answer write).shown state) }
          query := { reads.query with data := some state } }
      | none => answered

def updateBacklight (flight : Nat) (load : Load BacklightState) : DeviceReads R E :=
  match reads.backlight.filter fun read => read.flight = flight with
  | none => reads
  | some read =>
    let load := match load, reads.backlightWrites with
      | .ready state, some writes => .ready (writes.shown state)
      | load, _ => load
    { reads with backlight := some { read with load } }

def retryBacklight : DeviceReads R E :=
  match reads.backlight with
  | none => reads
  | some read =>
    match read.load with
    | .ready _ => reads
    | _ => { reads with backlight := some { read with load := .loading } }

/-- The part of the settings revalidation that is the backlight's. -/
def revalidateDeviceSettings : DeviceReads R E :=
  match reads.backlight, reads.backlightWrites with
  | some _, some writes =>
    if writes.pending.isEmpty then reads
    else { reads with backlightWrites := some { writes with refreshAfterPending := true } }
  | _, _ => reads

end DeviceReads

/-- The state a change is shown as, over the load it is made on. -/
def changeTarget (load : Load BacklightState) (change : BacklightChange) : Option BacklightState :=
  match load with
  | .ready state =>
    if state.accepts change then (some (state.changed change)).filter fun next => next ≠ state else none
  | _ => none

/-! ## The run -/

structure Ledger where
  /-- The reading taken last. -/
  reading : Option BacklightState := none
  /-- The changes made of it since. -/
  applied : List BacklightChange := []
  /-- The changes sent on this read. -/
  sent : List (Nat × BacklightChange) := []
  /-- The answers that came on this read's connection. -/
  answers : List Nat := []
  /-- An answer that carried no reading to take was the last one taken. -/
  owed : Bool := false
  /-- The cache's entry is the state a change predicts. -/
  predicted : Bool := false

/-- The changes sent that neither their own answer nor that of a later one covers. -/
def Ledger.unanswered (ledger : Ledger) : List (Nat × BacklightChange) :=
  ledger.sent.filter fun sent => ledger.answers.all fun write => decide (write < sent.1)

/-- The cache's entry is shown: a reading is taken, a prediction is not one. -/
def Ledger.take (ledger : Ledger) (writes : BacklightWrites) : Load BacklightState → Ledger
  | .ready state =>
    if ledger.predicted then ledger
    else { ledger with reading := some state, applied := writes.pending.map Prod.snd, owed := false }
  | _ => ledger

structure World (R E : Type) where
  reads : DeviceReads R E := {}
  ledger : Ledger := {}

inductive Event (R E : Type) where
  | ensure (route : R)
  | remove
  /-- The user's change, while the current record is on `route`. -/
  | commit (route : R) (change : BacklightChange)
  | answer (route : R) (write : Nat) (readBack : Option BacklightState)
  /-- A fetch of the cache answers. -/
  | fetched (state : BacklightState)
  /-- The cache's other fields move. -/
  | moved (error : Option E) (isValidating : Bool)
  /-- The observer of `flight` runs. -/
  | notified (flight : Nat)
  | revision
  | retry
  /-- Another keyboard's change takes a number. -/
  | elsewhere

namespace World

variable [DecidableEq R] [ReadError E] (w : World R E)

def ensure (route : R) : World R E :=
  if (w.reads.onRoute route).isSome then w
  else
    { reads := w.reads.ensureBacklight route
      ledger := ({} : Ledger).take {} (projectLoad w.reads.removeBacklight.query) }

def commit (route : R) (change : BacklightChange) : World R E :=
  match changeTarget w.reads.backlightLoad change with
  | none => w
  | some next =>
    match w.reads.beginBacklightWrite route change next with
    | none => w
    | some reads =>
      { reads
        ledger :=
          { w.ledger with
            applied := w.ledger.applied ++ [change]
            sent := w.ledger.sent ++ [(w.reads.nextBacklightWrite + 1, change)]
            predicted := true } }

def answer (route : R) (write : Nat) (readBack : Option BacklightState) : World R E :=
  if (w.reads.onRoute route).isNone then w
  else
    let heard : Ledger := { w.ledger with answers := w.ledger.answers ++ [write] }
    { reads := w.reads.finishBacklightWrite route write readBack
      ledger :=
        if w.reads.takes route write = false then heard
        else match if w.reads.refreshes write then none else readBack with
          | some state =>
            { heard with
              reading := some state, applied := (w.reads.answer write).pending.map Prod.snd
              owed := false, predicted := false }
          | none => { heard with owed := true } }

def notified (flight : Nat) : World R E :=
  { reads := w.reads.updateBacklight flight (projectLoad w.reads.query)
    ledger :=
      if (w.reads.backlight.filter fun read => read.flight = flight).isSome then
        w.ledger.take w.reads.writes (projectLoad w.reads.query)
      else w.ledger }

/-- Only an answer is refused, and only one to a write that was never begun. -/
def step (w : World R E) : Event R E → Option (World R E)
  | .ensure route => some (w.ensure route)
  | .remove => some { reads := w.reads.removeBacklight }
  | .commit route change => some (w.commit route change)
  | .answer route write readBack =>
    if write ≤ w.reads.nextBacklightWrite then some (w.answer route write readBack) else none
  | .fetched state =>
    some
      { reads := { w.reads with query := { w.reads.query with data := some state } }
        ledger := { w.ledger with predicted := false } }
  | .moved error isValidating =>
    some { w with reads := { w.reads with query := { w.reads.query with error, isValidating } } }
  | .notified flight => some (w.notified flight)
  | .revision => some { w with reads := w.reads.revalidateDeviceSettings }
  | .retry => some { w with reads := w.reads.retryBacklight }
  | .elsewhere =>
    some { w with reads := { w.reads with nextBacklightWrite := w.reads.nextBacklightWrite + 1 } }

end World

/-! ## What is shown -/

theorem showChanges_eq : ∀ (changes : List BacklightChange) (s : BacklightState),
    showChanges changes s = s.changes (changes.filter s.accepts)
  | [], _ => rfl
  | c :: cs, s => by
    rw [showChanges, List.foldl_cons]
    by_cases hc : s.accepts c = true
    · have haccepts : (s.changed c).accepts = s.accepts := funext fun d => s.accepts_changes [c] d
      rw [if_pos hc, List.filter_cons_of_pos hc]
      exact (showChanges_eq cs (s.changed c)).trans (by rw [haccepts]; rfl)
    · rw [if_neg hc, List.filter_cons_of_neg hc]
      exact showChanges_eq cs s

theorem showChanges_append (xs ys : List BacklightChange) (s : BacklightState) :
    showChanges (xs ++ ys) s = showChanges ys (showChanges xs s) :=
  List.foldl_append ..

theorem showChanges_replayable (cs : List BacklightChange) (s : BacklightState) :
    showChanges cs (showChanges cs s) = showChanges cs s := by
  have haccepts : (showChanges cs s).accepts = s.accepts := by
    rw [showChanges_eq]
    exact funext fun d => s.accepts_changes _ d
  rw [showChanges_eq cs (showChanges cs s), haccepts, showChanges_eq cs s]
  exact BacklightState.changes_replayable _ s

/-- **The changes still pending, made again over a state that has them**, show nothing new. -/
theorem showChanges_of_suffix {pending applied : List BacklightChange} (h : pending <:+ applied) (s : BacklightState) :
    showChanges pending (showChanges applied s) = showChanges applied s := by
  obtain ⟨landed, rfl⟩ := h
  rw [showChanges_append, showChanges_replayable]

/-! ## What a run keeps -/

namespace World

/-- The ledger accounts for what is shown, what is pending and what the cache holds. -/
structure Inv (w : World R E) : Prop where
  numbered : ∀ sent ∈ w.ledger.sent, 0 < sent.1 ∧ sent.1 ≤ w.reads.nextBacklightWrite
  ordered : w.ledger.sent.Pairwise fun a b => a.1 < b.1
  begun : w.reads.writes.answered ≤ w.reads.nextBacklightWrite
  answered : ∀ n, n ≤ w.reads.writes.answered ↔ n = 0 ∨ ∃ write ∈ w.ledger.answers, n ≤ write
  pending : w.reads.writes.pending = w.ledger.sent.filter fun sent => decide (w.reads.writes.answered < sent.1)
  shows : ∀ read v, w.reads.backlight = some read → read.load = .ready v →
    ∃ reading, w.ledger.reading = some reading ∧ v = showChanges w.ledger.applied reading
  predicted : w.ledger.predicted = true → w.reads.backlight.isSome ∧
    ∃ reading, w.ledger.reading = some reading ∧ w.reads.query.data = some (showChanges w.ledger.applied reading)
  covers : w.reads.writes.pending.map Prod.snd <:+ w.ledger.applied
  sent : w.ledger.applied <:+ w.ledger.sent.map Prod.snd
  exact : w.ledger.owed = false → w.ledger.applied = w.reads.writes.pending.map Prod.snd

theorem inv_init : Inv ({} : World R E) where
  numbered _ h := nomatch h
  ordered := List.Pairwise.nil
  begun := Nat.le_refl 0
  answered n := by
    refine ⟨fun h => Or.inl (Nat.le_zero.1 h), ?_⟩
    rintro (rfl | ⟨_, h, _⟩)
    · exact Nat.le_refl 0
    · cases h
  pending := rfl
  shows _ _ h := nomatch h
  predicted h := nomatch h
  covers := List.suffix_refl []
  sent := List.suffix_refl []
  exact _ := rfl

/-- An ordered list's entries beyond a number are its last. -/
theorem filter_suffix {l : List (Nat × BacklightChange)} (h : l.Pairwise fun a b => a.1 < b.1) (n : Nat) :
    (l.filter fun sent => decide (n < sent.1)) <:+ l := by
  induction l with
  | nil => exact List.suffix_refl _
  | cons a l ih =>
    have hl := (List.pairwise_cons.1 h)
    by_cases ha : n < a.1
    · have hall : ∀ b ∈ a :: l, decide (n < b.1) = true := by
        intro b hb
        rcases List.mem_cons.1 hb with rfl | hb
        · exact decide_eq_true ha
        · exact decide_eq_true (Nat.lt_trans ha (hl.1 b hb))
      simp only [List.filter_eq_self.2 hall, List.suffix_refl]
    · rw [List.filter_cons_of_neg (by simpa using ha)]
      exact (ih hl.2).trans (List.suffix_cons a l)

variable {w : World R E}

theorem Inv.unanswered (hi : w.Inv) : w.ledger.unanswered = w.reads.writes.pending := by
  rw [hi.pending]
  refine List.filter_congr fun sent hsent => ?_
  have hpos := (hi.numbered sent hsent).1
  have hiff := hi.answered sent.1
  rw [Bool.eq_iff_iff, List.all_eq_true, decide_eq_true_iff]
  constructor
  · intro h
    by_contra hle
    rcases hiff.1 (Nat.le_of_not_lt hle) with h0 | ⟨write, hmem, hw⟩
    · omega
    · exact absurd (of_decide_eq_true (h write hmem)) (by omega)
  · intro h write hmem
    have : ¬ sent.1 ≤ write := fun hle => absurd (hiff.2 (Or.inr ⟨write, hmem, hle⟩)) (by omega)
    exact decide_eq_true (by omega)

/-! ### A read made and dropped -/

variable [DecidableEq R] [ReadError E]

omit [DecidableEq R] [ReadError E] in
theorem inv_removed (w : World R E) : Inv ({ reads := w.reads.removeBacklight } : World R E) where
  numbered _ h := nomatch h
  ordered := List.Pairwise.nil
  begun := Nat.zero_le _
  answered := inv_init.answered (E := E) (R := R)
  pending := rfl
  shows _ _ h := nomatch h
  predicted h := nomatch h
  covers := List.suffix_refl []
  sent := List.suffix_refl []
  exact _ := rfl

theorem inv_ensure (hi : w.Inv) (route : R) : (w.ensure route).Inv := by
  unfold ensure
  by_cases hon : (w.reads.onRoute route).isSome
  · rw [if_pos hon]
    exact hi
  rw [if_neg hon, DeviceReads.ensureBacklight, if_neg hon]
  have h0 := inv_removed w
  generalize hload : projectLoad w.reads.removeBacklight.query = load
  have hread : ∀ read, (w.reads.removeBacklight.subscribe route).backlight = some read → read.load = load := by
    rintro _ ⟨⟩
    exact hload
  cases load with
  | ready state =>
    refine { h0 with shows := fun read v h hv => ⟨state, rfl, ?_⟩, predicted := fun h => nomatch h }
    rw [hread read h] at hv
    cases hv
    rfl
  | _ =>
    exact
      { h0 with
        predicted := fun h => nomatch h
        shows := fun read v h hv => by
          rw [hread read h] at hv
          cases hv }

/-! ### A change -/

theorem changeTarget_eq_some {load : Load BacklightState} {change : BacklightChange} {next : BacklightState}
    (h : changeTarget load change = some next) :
    ∃ state, load = .ready state ∧ state.accepts change = true ∧ next = state.changed change := by
  unfold changeTarget at h
  split at h
  · rename_i state
    split at h
    · obtain ⟨hnext, -⟩ := Option.filter_eq_some_iff.1 h
      cases hnext
      exact ⟨state, rfl, ‹_›, rfl⟩
    · cases h
  · cases h

omit [ReadError E] in
theorem inv_commit (hi : w.Inv) (route : R) (change : BacklightChange) :
    (w.commit route change).Inv := by
  unfold commit
  cases htarget : changeTarget w.reads.backlightLoad change with
  | none => exact hi
  | some next =>
    cases hread : w.reads.onRoute route with
    | none => simp only [DeviceReads.beginBacklightWrite, hread, Option.map_none]; exact hi
    | some read =>
      simp only [DeviceReads.beginBacklightWrite, hread, Option.map_some]
      obtain ⟨hbacklight, -⟩ := Option.filter_eq_some_iff.1 hread
      obtain ⟨state, hload, haccepts, rfl⟩ := changeTarget_eq_some htarget
      obtain ⟨reading, hreading, hstate⟩ : ∃ reading, w.ledger.reading = some reading ∧
          state = showChanges w.ledger.applied reading := by
        refine hi.shows read state hbacklight ?_
        rw [DeviceReads.backlightLoad, hbacklight] at hload
        exact hload
      have hnext : state.changed change = showChanges (w.ledger.applied ++ [change]) reading := by
        rw [showChanges_append, ← hstate]
        exact (if_pos haccepts).symm
      have hlater : ∀ sent ∈ w.ledger.sent, sent.1 < w.reads.nextBacklightWrite + 1 :=
        fun sent h => Nat.lt_succ_of_le (hi.numbered sent h).2
      have hnew : w.reads.writes.answered < w.reads.nextBacklightWrite + 1 := Nat.lt_succ_of_le hi.begun
      have hpending : w.reads.writes.pending ++ [(w.reads.nextBacklightWrite + 1, change)] =
          (w.ledger.sent ++ [(w.reads.nextBacklightWrite + 1, change)]).filter
            fun sent => decide (w.reads.writes.answered < sent.1) := by
        rw [List.filter_append, ← hi.pending, List.filter_cons_of_pos (by simpa using hnew), List.filter_nil]
      have hmap : ∀ xs : List (Nat × BacklightChange),
          (xs ++ [(w.reads.nextBacklightWrite + 1, change)]).map Prod.snd = xs.map Prod.snd ++ [change] :=
        fun xs => List.map_append
      exact
        { numbered := by
            intro sent hsent
            rcases List.mem_append.1 hsent with h | h
            · exact ⟨(hi.numbered sent h).1, Nat.le_succ_of_le (hi.numbered sent h).2⟩
            · cases List.mem_singleton.1 h
              exact ⟨Nat.succ_pos _, Nat.le_refl _⟩
          ordered := by
            refine List.pairwise_append.2 ⟨hi.ordered, List.pairwise_singleton _ _, fun a ha b hb => ?_⟩
            cases List.mem_singleton.1 hb
            exact hlater a ha
          begun := Nat.le_succ_of_le hi.begun
          answered := hi.answered
          pending := hpending
          shows := by
            rintro _ v ⟨⟩ hv
            cases hv
            exact ⟨reading, hreading, hnext⟩
          predicted := fun _ => ⟨rfl, reading, hreading, congrArg some hnext⟩
          covers := by
            obtain ⟨landed, hlanded⟩ := hi.covers
            refine ⟨landed, ?_⟩
            rw [← hlanded, List.append_assoc]
            exact congrArg _ (hmap w.reads.writes.pending)
          sent := by
            obtain ⟨gone, hgone⟩ := hi.sent
            refine ⟨gone, ?_⟩
            rw [hmap, ← hgone, List.append_assoc]
          exact := fun howed => by
            rw [hi.exact howed]
            exact (hmap w.reads.writes.pending).symm }

/-! ### An answer -/

omit [DecidableEq R] [ReadError E] in
/-- An answer that is taken, before its readback is. -/
theorem inv_heard (hi : w.Inv) {write : Nat} (hbegun : write ≤ w.reads.nextBacklightWrite)
    (hnew : w.reads.writes.answered < write) (refresh : Bool) :
    Inv
      { reads := { w.reads with backlightWrites := some { w.reads.answer write with refreshAfterPending := refresh } }
        ledger := { w.ledger with answers := w.ledger.answers ++ [write], owed := true } } where
  numbered := hi.numbered
  ordered := hi.ordered
  begun := hbegun
  answered n := by
    constructor
    · exact fun h => Or.inr ⟨write, List.mem_append_right _ (List.mem_singleton_self write), h⟩
    · rintro (rfl | ⟨k, hk, hn⟩)
      · exact Nat.zero_le write
      · rcases List.mem_append.1 hk with hk | hk
        · have hle : n ≤ w.reads.writes.answered := (hi.answered n).2 (Or.inr ⟨k, hk, hn⟩)
          exact Nat.le_of_lt (Nat.lt_of_le_of_lt hle hnew)
        · rw [List.mem_singleton.1 hk] at hn
          exact hn
  pending := by
    have hlater : ∀ sent : Nat × BacklightChange, (decide (write < sent.1) && decide (w.reads.writes.answered < sent.1))
        = decide (write < sent.1) := by
      intro sent
      rw [Bool.and_eq_left_iff_imp]
      exact fun h => decide_eq_true (Nat.lt_trans hnew (of_decide_eq_true h))
    have hfilter : (w.reads.answer write).pending = w.ledger.sent.filter fun sent => decide (write < sent.1) := by
      rw [DeviceReads.answer, hi.pending, List.filter_filter]
      exact List.filter_congr fun sent _ => hlater sent
    exact hfilter
  shows := hi.shows
  predicted := hi.predicted
  covers := by
    have hsuffix : (w.reads.answer write).pending <:+ w.reads.writes.pending := by
      rw [DeviceReads.answer, hi.pending]
      exact filter_suffix (hi.ordered.filter _) write
    exact (hsuffix.map Prod.snd).trans hi.covers
  sent := hi.sent
  exact h := nomatch h

omit [ReadError E] in
theorem inv_answer (hi : w.Inv) (route : R) {write : Nat} (hbegun : write ≤ w.reads.nextBacklightWrite)
    (readBack : Option BacklightState) : (w.answer route write readBack).Inv := by
  unfold answer DeviceReads.finishBacklightWrite
  cases hread : w.reads.onRoute route with
  | none => exact hi
  | some read =>
    have hbacklight : w.reads.backlight = some read := (Option.filter_eq_some_iff.1 hread).1
    simp only [Option.isNone_some, Bool.false_eq_true, if_false]
    by_cases htakes : w.reads.takes route write = false
    · rw [if_pos htakes, if_pos htakes]
      have hold : write ≤ w.reads.writes.answered := by
        rw [DeviceReads.takes, hread] at htakes
        simpa using htakes
      refine { hi with answered := fun n => ⟨fun h => ?_, ?_⟩ }
      · rcases (hi.answered n).1 h with h0 | ⟨k, hk, hn⟩
        · exact Or.inl h0
        · exact Or.inr ⟨k, List.mem_append_left _ hk, hn⟩
      · rintro (rfl | ⟨k, hk, hn⟩)
        · exact Nat.zero_le _
        · rcases List.mem_append.1 hk with hk | hk
          · exact (hi.answered n).2 (Or.inr ⟨k, hk, hn⟩)
          · rw [List.mem_singleton.1 hk] at hn
            exact Nat.le_trans hn hold
    rw [if_neg htakes, if_neg htakes]
    have hnew : w.reads.writes.answered < write := by
      rw [DeviceReads.takes, hread] at htakes
      simpa using htakes
    by_cases hrefresh : w.reads.refreshes write = true
    · rw [if_pos hrefresh, if_pos hrefresh]
      exact inv_heard hi hbegun hnew false
    rw [if_neg hrefresh, if_neg hrefresh]
    have hheard := inv_heard hi hbegun hnew w.reads.writes.refreshAfterPending
    cases readBack with
    | none => exact hheard
    | some state =>
      exact
        { hheard with
          shows := by
            rintro _ v ⟨⟩ hv
            cases hv
            exact ⟨state, rfl, rfl⟩
          predicted := fun h => nomatch h
          covers := List.suffix_refl _
          sent := hheard.covers.trans hheard.sent
          exact := fun _ => rfl }

/-! ### A notification -/

omit [DecidableEq R] [ReadError E] in
theorem ready_of_updated {reads : DeviceReads R E} {flight : Nat} {load : Load BacklightState} {read : DeviceRead R}
    {v : BacklightState} (h : (reads.updateBacklight flight load).backlight = some read) (hv : read.load = .ready v)
    (hflight : (reads.backlight.filter fun read => read.flight = flight).isSome) :
    ∃ state, load = .ready state ∧ v = reads.writes.shown state := by
  obtain ⟨old, hold⟩ := Option.isSome_iff_exists.1 hflight
  simp only [DeviceReads.updateBacklight, hold] at h
  cases h
  cases load with
  | ready state =>
    refine ⟨state, rfl, ?_⟩
    cases hwrites : reads.backlightWrites with
    | none =>
      simp only [hwrites] at hv
      cases hv
      rw [DeviceReads.writes, hwrites]
      rfl
    | some writes =>
      simp only [hwrites] at hv
      cases hv
      rw [DeviceReads.writes, hwrites]
      rfl
  | _ => cases hv

omit [DecidableEq R] [ReadError E] in
theorem updated_eq (reads : DeviceReads R E) (flight : Nat) (load : Load BacklightState) :
    ∃ backlight, reads.updateBacklight flight load = { reads with backlight } ∧
      backlight.isSome = reads.backlight.isSome := by
  unfold DeviceReads.updateBacklight
  split
  · exact ⟨reads.backlight, rfl, rfl⟩
  · rename_i read hread
    rw [(Option.filter_eq_some_iff.1 hread).1]
    exact ⟨_, rfl, rfl⟩

omit [DecidableEq R] in
theorem inv_notified (hi : w.Inv) (flight : Nat) : (w.notified flight).Inv := by
  unfold notified
  by_cases hflight : (w.reads.backlight.filter fun read => read.flight = flight).isSome
  · rw [if_pos hflight]
    have hread : ∀ read v, (w.reads.updateBacklight flight (projectLoad w.reads.query)).backlight = some read →
        read.load = .ready v → ∃ state, projectLoad w.reads.query = .ready state ∧ v = w.reads.writes.shown state :=
      fun read v h hv => ready_of_updated h hv hflight
    obtain ⟨backlight, heq, hsome⟩ := updated_eq w.reads flight (projectLoad w.reads.query)
    rw [heq] at hread ⊢
    cases hload : projectLoad w.reads.query with
    | ready state =>
      rw [hload] at hread
      by_cases hpredicted : w.ledger.predicted = true
      · obtain ⟨hsub, reading, hreading, hdata⟩ := hi.predicted hpredicted
        rw [Ledger.take, if_pos hpredicted]
        refine { hi with shows := fun read v h hv => ⟨reading, hreading, ?_⟩, predicted := fun _ => ?_ }
        · obtain ⟨_, ⟨⟩, rfl⟩ := hread read v h hv
          have hstate : state = showChanges w.ledger.applied reading :=
            Option.some.inj ((data_of_ready hload).symm.trans hdata)
          rw [hstate]
          exact showChanges_of_suffix hi.covers reading
        · exact ⟨hsome.trans hsub, reading, hreading, hdata⟩
      · rw [Ledger.take, if_neg hpredicted]
        refine
          { hi with
            shows := fun read v h hv => ⟨state, rfl, ?_⟩
            predicted := fun h => absurd h hpredicted
            covers := List.suffix_refl _
            sent := hi.covers.trans hi.sent
            exact := fun _ => rfl }
        obtain ⟨_, ⟨⟩, rfl⟩ := hread read v h hv
        rfl
    | _ =>
      rw [hload] at hread
      refine { hi with shows := fun read v h hv => ?_, predicted := fun h => ?_ }
      · obtain ⟨_, ⟨⟩, _⟩ := hread read v h hv
      · exact ⟨hsome.trans (hi.predicted h).1, (hi.predicted h).2⟩
  · have hstale : w.reads.updateBacklight flight (projectLoad w.reads.query) = w.reads := by
      unfold DeviceReads.updateBacklight
      rw [Option.not_isSome_iff_eq_none.1 hflight]
    rw [if_neg hflight, hstale]
    exact hi

/-! ### Every step -/

omit [DecidableEq R] [ReadError E] in
theorem inv_retry (hi : w.Inv) : Inv { w with reads := w.reads.retryBacklight } := by
  unfold DeviceReads.retryBacklight
  split
  · exact hi
  · rename_i read hread
    split
    · exact hi
    · refine { hi with shows := ?_, predicted := fun h => ⟨rfl, (hi.predicted h).2⟩ }
      rintro _ v ⟨⟩ hv
      cases hv

omit [DecidableEq R] [ReadError E] in
theorem inv_revision (hi : w.Inv) : Inv { w with reads := w.reads.revalidateDeviceSettings } := by
  unfold DeviceReads.revalidateDeviceSettings
  split
  · rename_i writes _ hwrites
    split
    · exact hi
    · have heq : w.reads.writes = writes := by rw [DeviceReads.writes, hwrites]; rfl
      have hbegun := hi.begun
      have hanswered := hi.answered
      have hpending := hi.pending
      have hcovers := hi.covers
      have hexact := hi.exact
      rw [heq] at hbegun hanswered hpending hcovers hexact
      exact
        { hi with begun := hbegun, answered := hanswered, pending := hpending, covers := hcovers, exact := hexact }
  · exact hi

theorem inv_step {w' : World R E} (e : Event R E) (hi : w.Inv) (h : w.step e = some w') : w'.Inv := by
  cases e with
  | ensure route => cases h; exact inv_ensure hi route
  | remove => cases h; exact inv_removed w
  | commit route change => cases h; exact inv_commit hi route change
  | answer route write readBack =>
    simp only [step] at h
    split at h
    · cases h; exact inv_answer hi route ‹_› readBack
    · cases h
  | fetched state => cases h; exact { hi with predicted := fun h => nomatch h }
  | moved error isValidating => cases h; exact { hi with }
  | notified flight => cases h; exact inv_notified hi flight
  | revision => cases h; exact inv_revision hi
  | retry => cases h; exact inv_retry hi
  | elsewhere =>
    cases h
    exact
      { hi with
        numbered := fun sent hsent => ⟨(hi.numbered sent hsent).1, Nat.le_succ_of_le (hi.numbered sent hsent).2⟩
        begun := Nat.le_succ_of_le hi.begun }

/-- What the panel may show: the reading taken last with the changes sent since, and of those exactly the unanswered
ones unless a re-read is owed. -/
def Shows (w : World R E) : Prop :=
  ∀ state, w.reads.backlightLoad = .ready state →
    ∃ reading, w.ledger.reading = some reading ∧ state = showChanges w.ledger.applied reading ∧
      w.ledger.applied <:+ w.ledger.sent.map Prod.snd ∧
      w.ledger.unanswered.map Prod.snd <:+ w.ledger.applied ∧
      (w.ledger.owed = false → w.ledger.applied = w.ledger.unanswered.map Prod.snd)

omit [DecidableEq R] [ReadError E] in
theorem Inv.shows_of (hi : w.Inv) : w.Shows := by
  intro state hload
  unfold DeviceReads.backlightLoad at hload
  split at hload
  · rename_i read hread
    obtain ⟨reading, hreading, hstate⟩ := hi.shows read state hread hload
    refine ⟨reading, hreading, hstate, hi.sent, ?_⟩
    rw [hi.unanswered]
    exact ⟨hi.covers, hi.exact⟩
  · cases hload

end World

/-- **Changes made again over a backlight that has some of them** show what they show without it, and what is shown is
the reading taken last with the changes sent since. -/
theorem backlight_replays :
    (∀ (s : BacklightState) (cs : List BacklightChange) (k : Nat),
        (s.changes (cs.take k)).changes cs = s.changes cs) ∧
      (∀ (s : BacklightState) (cs : List BacklightChange) (k : Nat), (∀ c ∈ cs, s.accepts c = true) →
        showChanges cs s = s.changes cs ∧ showChanges cs (s.changes (cs.take k)) = showChanges cs s) ∧
      ∀ {R E : Type} [DecidableEq R] [ReadError E] (es : List (Event R E)),
        EveryState World.step World.Shows ({} : World R E) es := by
  have habsorbs : ∀ (s : BacklightState) (cs : List BacklightChange) (k : Nat),
      (s.changes (cs.take k)).changes cs = s.changes cs := by
    intro s cs k
    have h := (BacklightState.changes_replayable (cs.take k)).absorbs (cs.drop k) s
    rw [List.take_append_drop] at h
    exact h
  refine ⟨habsorbs, fun s cs k haccepts => ?_, fun es => ?_⟩
  · have hall : cs.filter s.accepts = cs := List.filter_eq_self.2 haccepts
    have hlanded : (s.changes (cs.take k)).accepts = s.accepts := funext fun d => s.accepts_changes _ d
    rw [showChanges_eq, showChanges_eq, hlanded, hall]
    exact ⟨rfl, habsorbs s cs k⟩
  · intro pre w hpre hrun
    exact (Lib.run_inv World.Inv (fun w e w' hi h => World.inv_step e hi h) pre {} w World.inv_init hrun).shows_of

/-! ### A refused change -/

/-- Every load shows the last reading with the unanswered changes alone. -/
def World.ShowsUnanswered (w : World R E) : Prop :=
  ∀ state, w.reads.backlightLoad = .ready state →
    ∃ reading, w.ledger.reading = some reading ∧ state = showChanges (w.ledger.unanswered.map Prod.snd) reading

instance : ReadError Empty where
  isPermanent := nofun
  text := nofun

def litBacklight : BacklightState where
  enabled := true
  mode := .automatic
  status := .alsAutomatic
  currentLevel := 3
  nbLevels := 8
  powerSave := false
  controls := ⟨0⟩
  duration := none

/-- The keyboard answers that it is lit and refuses to turn it off. -/
def refusedChange : List (Event Unit Empty) :=
  [.ensure (), .fetched litBacklight, .notified 0, .commit () (.enabled false), .answer () 1 none]

/-- **A refused change stays on screen** until the re-read answers, with nothing left unanswered. -/
theorem refused_change_shown : ¬ ∀ es : List (Event Unit Empty),
    EveryState World.step World.ShowsUnanswered ({} : World Unit Empty) es := by
  intro h
  obtain ⟨w, hw⟩ : ∃ w, Lib.run World.step ({} : World Unit Empty) refusedChange = some w := ⟨_, rfl⟩
  obtain ⟨reading, hreading, hstate⟩ := h refusedChange refusedChange w List.prefix_rfl hw
    (litBacklight.changed (.enabled false)) (by cases hw; rfl)
  cases hw
  cases hreading
  exact absurd hstate (by decide)

end Desktop
end OpenLogi
