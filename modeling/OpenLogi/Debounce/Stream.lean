import OpenLogi.Lib.Edges
import OpenLogi.Lib.Run
import OpenLogi.Debounce.Machine
/-!
# Stream — the changes a debouncer delivers

Each state stands for a level that has been delivered and a level that the switch has.  `Tracks` relates the two to
the whole mouse: every button but the tracked one has been delivered up to date, and the tracked one is where its state
says, with the timers that will settle it.
-/
namespace OpenLogi
namespace Debounce

open Lib (Flips levels flips_append levels_append Alternates flips_iff_alternates run Along along_inv)

namespace State

/-- The level of the tracked button that has been delivered. -/
def shown : State → Bool
  | .isDown | .isDownWaiting | .isUpDelaying | .isUpDelayingSpurious => true
  | _ => false

/-- The level the switch of the tracked button has. -/
def physical : State → Bool
  | .isDown | .isDownWaiting | .isDownDetectingSpurious | .isDownDelaying => true
  | _ => false

/-- No timer runs. -/
def atRest : State → Bool
  | .isUp | .isDown | .disabled => true
  | _ => false

/-- The short timer runs. -/
def detecting : State → Bool
  | .isUpDelayingSpurious | .isUpDetectingSpurious | .isDownDetectingSpurious => true
  | _ => false

theorem shown_of_atRest {s : State} (h : s.atRest = true) (hd : s ≠ .disabled) : s.shown = s.physical := by
  cases s <;> simp_all [atRest, shown, physical]

theorem detecting_of_atRest {s : State} (h : s.atRest = true) : s.detecting = false := by
  cases s <;> first | rfl | cases h

end State

/-- The timers that run for a button that last changed at `last`. -/
structure Timed (d : ButtonDebounce) (last : Nat) : Prop where
  bounce : d.bounceAt = if d.state.atRest then none else some (last + bounceTimeout)
  short : d.spuriousAt = if d.state.detecting then some (last + spuriousTimeout) else none

theorem Timed.of_rest {d : ButtonDebounce} (last : Nat) (h : d.state.atRest = true) (hb : d.bounceAt = none)
    (hs : d.spuriousAt = none) : Timed d last :=
  ⟨by rw [hb, if_pos h], by rw [hs, State.detecting_of_atRest h, if_neg Bool.false_ne_true]⟩

/-- A button's change, where its delivered level changes. -/
def flipTo (button : Option KeyCode) (before after : State) : Option ButtonChange :=
  if after.shown = before.shown then none else button.map fun b => ⟨b, after.shown⟩

variable {b : KeyCode}

theorem flips_flipTo {g : KeyCode → Bool} {before : State} (after : State) (h : g b = before.shown) :
    Flips ButtonChange.button ButtonChange.pressed g (flipTo (some b) before after).toList ∧
      levels ButtonChange.button ButtonChange.pressed g (flipTo (some b) before after).toList =
        Function.update g b after.shown := by
  unfold flipTo
  by_cases hs : after.shown = before.shown
  · rw [if_pos hs, hs, ← h, Function.update_eq_self]
    exact ⟨trivial, rfl⟩
  · rw [if_neg hs]
    refine ⟨⟨?_, trivial⟩, rfl⟩
    show after.shown = !g b
    rw [h]
    exact Bool.eq_not_of_ne hs

namespace ButtonDebounce

/-- **What an event delivers**: nothing, or the edge between the delivered levels of the two states. -/
theorem handle_delivers (d : ButtonDebounce) (event : Event) (now : Nat) (h : d.state ≠ .disabled) :
    (d.handle event now).1 = flipTo d.button d.state (d.handle event now).2.state ∧
      (d.handle event now).2.button = d.button ∧ (d.handle event now).2.state ≠ .disabled := by
  obtain ⟨state, button, spurious, bounceAt, spuriousAt, report⟩ := d
  cases state <;> cases event <;> cases spurious <;>
    simp_all [handle, handleState, flipTo, State.shown, press, release, goTo, startTimers, startBounceTimer,
      startSpuriousTimer, cancelTimers]

/-- A press of a button that is up, or a release of one that is down, starts its timers anew. -/
theorem handle_edge (d : ButtonDebounce) {pressed : Bool} (now last : Nat) (h : d.state ≠ .disabled)
    (hp : pressed = !d.state.physical) (ht : Timed d last) :
    (d.handle (if pressed then .press else .release) now).2.state.physical = pressed ∧
      Timed (d.handle (if pressed then .press else .release) now).2 now := by
  obtain ⟨state, button, spurious, bounceAt, spuriousAt, report⟩ := d
  obtain ⟨hb, hs⟩ := ht
  subst hp
  cases state <;>
    simp only [State.atRest, State.detecting, Bool.false_eq_true, if_false, if_true] at hb hs <;> subst hb hs <;>
    cases spurious <;>
    first
    | exact absurd rfl h
    | exact ⟨rfl, rfl, rfl⟩

/-- A flush leaves the tracked button where its switch is, with no timer. -/
theorem handle_otherButton (d : ButtonDebounce) (now : Nat) :
    (d.handle .otherButton now).2.state.physical = d.state.physical ∧
      (d.handle .otherButton now).2.state.atRest = true ∧ (d.handle .otherButton now).2.bounceAt = none ∧
      (d.handle .otherButton now).2.spuriousAt = none := by
  obtain ⟨state, button, spurious, bounceAt, spuriousAt, report⟩ := d
  cases state <;> exact ⟨rfl, rfl, rfl, rfl⟩

variable {d : ButtonDebounce}

theorem handle_timeoutShort {last : Nat} (now : Nat) (ht : Timed d last) (h : d.state.detecting = true) :
    ({ d with spuriousAt := none }.handle .timeoutShort now).2.state.physical = d.state.physical ∧
      Timed ({ d with spuriousAt := none }.handle .timeoutShort now).2 last := by
  obtain ⟨state, button, spurious, bounceAt, spuriousAt, report⟩ := d
  obtain ⟨hb, hs⟩ := ht
  cases state <;> first | exact absurd h Bool.false_ne_true | exact ⟨rfl, hb, rfl⟩ | exact ⟨rfl, rfl, rfl⟩

theorem handle_timeout {last : Nat} (now : Nat) (ht : Timed d last) (h : d.state.detecting = false) :
    ({ d with bounceAt := none }.handle .timeout now).2.state.physical = d.state.physical ∧
      Timed ({ d with bounceAt := none }.handle .timeout now).2 last := by
  obtain ⟨state, button, spurious, bounceAt, spuriousAt, report⟩ := d
  obtain ⟨hb, hs⟩ := ht
  cases state <;> first | exact absurd h.symm Bool.false_ne_true | exact ⟨rfl, rfl, hs⟩

/-- A timer taken leaves the level of the switch, and the other timer: the short one runs out first. -/
theorem handle_taken {d' : ButtonDebounce} {event : Event} {now last : Nat} (ht : Timed d last)
    (h : d.takeDue now = some (event, d')) :
    (d'.handle event now).2.state.physical = d.state.physical ∧ Timed (d'.handle event now).2 last := by
  obtain ⟨rfl, rfl, t, hs, -⟩ | ⟨rfl, rfl, ⟨t, hb, hle⟩, hs⟩ := takeDue_some h
  · have hd : d.state.detecting = true := by
      by_contra hn
      rw [ht.short, if_neg hn] at hs
      cases hs
    exact handle_timeoutShort now ht hd
  · have hd : d.state.detecting = false := by
      by_contra hn
      have hlt := hs _ (by rw [ht.short, if_pos (by simpa using hn), Option.mem_some])
      have hr : d.state.atRest = false := by
        by_contra hr
        rw [ht.bounce, if_pos (by simpa using hr)] at hb
        cases hb
      rw [ht.bounce, hr] at hb
      have hdue := Option.some.inj hb
      unfold bounceTimeout at hdue
      unfold spuriousTimeout at hlt
      omega
    exact handle_timeout now ht hd

end ButtonDebounce

/-! ## Tracking the mouse -/

/-- The debouncer of a mouse whose switches have the levels `f` and last changed at `since`, once the levels `g` have
been delivered. -/
inductive Tracks (f : KeyCode → Bool) (since : KeyCode → Nat) (g : KeyCode → Bool) (d : ButtonDebounce) : Prop
  | off (state : d.state = .disabled) (bounce : d.bounceAt = none) (short : d.spuriousAt = none) (levels : g = f)
  | fresh (button : d.button = none) (state : d.state = .isUp) (bounce : d.bounceAt = none)
    (short : d.spuriousAt = none) (levels : g = f)
  | tracking (b : KeyCode) (button : d.button = some b) (state : d.state ≠ .disabled) (others : ∀ k ≠ b, g k = f k)
    (shown : g b = d.state.shown) (physical : f b = d.state.physical) (timed : Timed d (since b))

/-- At rest, with every button delivered up to date. -/
structure Settled (f : KeyCode → Bool) (g : KeyCode → Bool) (d : ButtonDebounce) : Prop where
  levels : g = f
  rest : d.state.atRest = true
  bounce : d.bounceAt = none
  short : d.spuriousAt = none

/-- What a call delivers are edges, and after it the debouncer tracks the mouse. -/
structure Delivers (g : KeyCode → Bool) (f : KeyCode → Bool) (since : KeyCode → Nat) (out : List ButtonChange)
    (d : ButtonDebounce) : Prop where
  flips : Flips ButtonChange.button ButtonChange.pressed g out
  tracks : Tracks f since (levels ButtonChange.button ButtonChange.pressed g out) d

variable {f f' g : KeyCode → Bool} {since since' : KeyCode → Nat} {d d' : ButtonDebounce}

theorem Delivers.append {out out' : List ButtonChange} (h : Delivers g f since out d)
    (h' : Delivers (levels ButtonChange.button ButtonChange.pressed g out) f' since' out' d') :
    Delivers g f' since' (out ++ out') d' :=
  ⟨(flips_append _ _ _).2 ⟨h.flips, h'.flips⟩, by rw [levels_append]; exact h'.tracks⟩

theorem Tracks.delivers (h : Tracks f since g d) : Delivers g f since [] d := ⟨trivial, h⟩

/-- At rest every button has been delivered up to date. -/
theorem Tracks.levels_eq (h : Tracks f since g d) (hr : d.state.atRest = true) : g = f := by
  cases h with
  | off _ _ _ levels => exact levels
  | fresh _ _ _ _ levels => exact levels
  | tracking b _ state others shown physical _ =>
    funext k
    by_cases hk : k = b
    · rw [hk, shown, physical, State.shown_of_atRest hr state]
    · exact others k hk

theorem Tracks.others_eq (h : Tracks f since g d) (hb : d.button ≠ some b) : g b = f b := by
  cases h with
  | off _ _ _ levels => rw [levels]
  | fresh _ _ _ _ levels => rw [levels]
  | tracking k button _ others => exact others b fun hk => hb (hk ▸ button)

/-- With no timer due, a button still for the bounce timeout has been delivered up to date. -/
theorem Tracks.still_eq {now : Nat} (h : Tracks f since g d) (hq : d.Quiet now) (hb : since b + bounceTimeout ≤ now) :
    g b = f b := by
  by_cases hbut : d.button = some b
  · by_cases hr : d.state.atRest = true
    · rw [h.levels_eq hr]
    · cases h with
      | off _ _ _ levels => rw [levels]
      | fresh _ _ _ _ levels => rw [levels]
      | tracking k button _ _ _ _ timed =>
        obtain rfl : k = b := Option.some.inj (button.symm.trans hbut)
        have hlt := hq.bounce _ (by rw [timed.bounce, if_neg hr, Option.mem_some])
        exact absurd hb (Nat.not_le.2 hlt)
  · exact h.others_eq hbut

/-- An event of the tracked button: the other buttons are as delivered, and this one is where its state says. -/
theorem delivers_handle {event : Event} {now : Nat} (hd : d.state ≠ .disabled) (hb : d.button = some b)
    (hg : g b = d.state.shown) (hr : ∀ k ≠ b, g k = f k) (hp : f b = (d.handle event now).2.state.physical)
    (ht : Timed (d.handle event now).2 (since b)) :
    Delivers g f since (d.handle event now).1.toList (d.handle event now).2 := by
  obtain ⟨hout, hbut, hdis⟩ := d.handle_delivers event now hd
  obtain ⟨hfl, hlev⟩ := flips_flipTo (b := b) (d.handle event now).2.state hg
  rw [hb] at hout hbut
  rw [hout]
  refine ⟨hfl, .tracking b hbut hdis (fun k hk => ?_) ?_ hp ht⟩
  · rw [hlev, Function.update_of_ne hk]
    exact hr k hk
  · rw [hlev, Function.update_self]

/-- **A change of the tracked button.** -/
theorem Tracks.change {c : ButtonChange} (now : Nat) (h : Tracks f since g d) (hb : d.button = some c.button)
    (hc : c.pressed = !f c.button) :
    Delivers g (Function.update f c.button c.pressed) (Function.update since c.button now)
      (d.handle (if c.pressed then .press else .release) now).1.toList
      (d.handle (if c.pressed then .press else .release) now).2 := by
  cases h with
  | off state bounce short levels =>
    obtain ⟨state', button, spurious, bounceAt, spuriousAt, report⟩ := d
    obtain ⟨b, pressed⟩ := c
    subst state levels
    obtain rfl : button = some b := hb
    cases pressed <;> exact ⟨⟨hc, trivial⟩, .off rfl bounce short rfl⟩
  | fresh button =>
    rw [button] at hb
    cases hb
  | tracking b button state others shown physical timed =>
    obtain rfl : b = c.button := Option.some.inj (button.symm.trans hb)
    obtain ⟨hp, ht⟩ := d.handle_edge now (since c.button) state (physical ▸ hc) timed
    refine delivers_handle state button shown (fun k hk => ?_) ?_ ?_
    · rw [Function.update_of_ne hk]
      exact others k hk
    · rw [Function.update_self, hp]
    · rw [Function.update_self]
      exact ht

/-- A change after a flush starts from the state its level says. -/
theorem Settled.seed {c : ButtonChange} (since : KeyCode → Nat) (h : Settled f g d) (hc : c.pressed = !f c.button) :
    Tracks f since g (d.seed c) := by
  obtain ⟨hl, hr, hb, hs⟩ := h
  subst hl
  unfold ButtonDebounce.seed
  by_cases hd : d.state = .disabled
  · rw [if_neg (by simpa using hd)]
    exact .off hd hb hs rfl
  · rw [if_pos hd]
    have hf : g c.button = !c.pressed := by rw [hc, Bool.not_not]
    refine .tracking c.button rfl ?_ (fun k _ => rfl) ?_ ?_ ⟨?_, ?_⟩ <;> cases hcp : c.pressed <;>
      simp_all [ButtonDebounce.goTo, State.shown, State.physical, State.atRest, State.detecting]

/-- **A flush delivers what is held.** -/
theorem Tracks.flush (now : Nat) (h : Tracks f since g d) :
    Delivers g f since (d.handle .otherButton now).1.toList (d.handle .otherButton now).2 := by
  obtain ⟨hp, hr, hb, hs⟩ := d.handle_otherButton now
  cases h with
  | off state _ _ levels =>
    have hh : d.handle .otherButton now = (none, d.cancelTimers) := by
      simp [ButtonDebounce.handle, ButtonDebounce.handleState, ButtonDebounce.cancelTimers, state]
    rw [hh]
    exact ⟨trivial, .off state rfl rfl levels⟩
  | fresh button state _ _ levels =>
    have hh : d.handle .otherButton now = (none, d.cancelTimers) := by
      simp [ButtonDebounce.handle, ButtonDebounce.handleState, ButtonDebounce.cancelTimers, state]
    rw [hh]
    exact ⟨trivial, .fresh button state rfl rfl levels⟩
  | tracking b button state others shown physical _ =>
    exact delivers_handle state button shown others (physical.trans hp.symm) (.of_rest _ hr hb hs)

theorem Tracks.flush_settled (now : Nat) (h : Tracks f since g d) :
    Settled f (levels ButtonChange.button ButtonChange.pressed g (d.handle .otherButton now).1.toList)
      (d.handle .otherButton now).2 := by
  obtain ⟨-, hr, hb, hs⟩ := d.handle_otherButton now
  exact ⟨(h.flush now).tracks.levels_eq hr, hr, hb, hs⟩

/-! ## The calls -/

/-- **Timers run, early or late.** -/
theorem Tracks.expireRounds (now : Nat) : ∀ (n : Nat) {g : KeyCode → Bool} {d : ButtonDebounce}, Tracks f since g d →
    Delivers g f since (ButtonDebounce.expireRounds now n d).1 (ButtonDebounce.expireRounds now n d).2
  | 0, _, _, h => h.delivers
  | n + 1, g, d, h => by
    unfold ButtonDebounce.expireRounds
    cases hd : d.takeDue now with
    | none => exact h.delivers
    | some p =>
      obtain ⟨event, d'⟩ := p
      cases h with
      | off _ bounce short _ =>
        have hq := ButtonDebounce.takeDue_eq_none.2
          (⟨by simp [bounce], by simp [short]⟩ : d.Quiet now)
        rw [hq] at hd
        cases hd
      | fresh _ _ bounce short _ =>
        have hq := ButtonDebounce.takeDue_eq_none.2
          (⟨by simp [bounce], by simp [short]⟩ : d.Quiet now)
        rw [hq] at hd
        cases hd
      | tracking b button state others shown physical timed =>
        obtain ⟨hp, ht⟩ := ButtonDebounce.handle_taken timed hd
        obtain ⟨hst, hbut⟩ := ButtonDebounce.takeDue_keeps hd
        have hdel : Delivers g f since (d'.handle event now).1.toList (d'.handle event now).2 :=
          delivers_handle (hst ▸ state) (hbut.trans button) (hst ▸ shown) others (physical.trans hp.symm) ht
        exact hdel.append (hdel.tracks.expireRounds now n)

theorem Tracks.expire (now : Nat) (h : Tracks f since g d) : Delivers g f since (d.expire now).1 (d.expire now).2 :=
  h.expireRounds now 3

/-- When each button last changed, after a report at `now`. -/
def sinceOf (now : Nat) (since : KeyCode → Nat) (report : List ButtonChange) : KeyCode → Nat :=
  report.foldl (fun since c => Function.update since c.button now) since

/-- **A report of several changes**: each is delivered at once. -/
theorem several_delivers (now : Nat) : ∀ (report : List ButtonChange) {f g : KeyCode → Bool} {since : KeyCode → Nat}
    {d : ButtonDebounce} (deliver : List ButtonChange), Settled f g d → Tracks f since g d →
    Flips ButtonChange.button ButtonChange.pressed f report →
    ∃ out d', report.foldl (ButtonDebounce.endChange true now) (deliver, true, d) = (deliver ++ out, true, d') ∧
      Delivers g (levels ButtonChange.button ButtonChange.pressed f report) (sinceOf now since report) out d'
  | [], f, g, since, d, deliver, _, h, _ => ⟨[], d, by rw [List.append_nil]; rfl, h.delivers⟩
  | c :: report, f, g, since, d, deliver, hs, h, hf => by
    obtain ⟨hc, hf⟩ := hf
    have hseed := hs.seed since hc
    have hchange := hseed.change now rfl hc
    have hflush := hchange.tracks.flush now
    have hset := hchange.tracks.flush_settled now
    obtain ⟨out, d', hfold, hdel⟩ := several_delivers now report _ hset hflush.tracks hf
    refine ⟨_, d', ?_, hchange.append (hflush.append hdel)⟩
    rw [List.foldl_cons, ButtonDebounce.endChange_flushed, if_pos rfl, hfold, List.append_assoc, List.append_assoc]

theorem Tracks.withReport (report : List ButtonChange) (h : Tracks f since g d) :
    Tracks f since g { d with report } := by
  cases h with
  | off state bounce short levels => exact .off state bounce short levels
  | fresh button state bounce short levels => exact .fresh button state bounce short levels
  | tracking b button state others shown physical timed =>
    exact .tracking b button state others shown physical ⟨timed.bounce, timed.short⟩

/-- **The end of a report** delivers edges, whatever the report holds and whichever timers ran late. -/
theorem Tracks.endReport (now : Nat) (h : Tracks f since g d)
    (hf : Flips ButtonChange.button ButtonChange.pressed f d.report) :
    Delivers g (levels ButtonChange.button ButtonChange.pressed f d.report) (sinceOf now since d.report)
      (d.endReport now).1 (d.endReport now).2 := by
  have hexp := h.expire now
  have htaken : Delivers g f since (d.expire now).1 (d.taken now) := ⟨hexp.flips, hexp.tracks.withReport []⟩
  cases hr : d.report with
  | nil =>
    rw [ButtonDebounce.endReport_nil now hr]
    exact htaken
  | cons first rest =>
    rw [hr] at hf
    by_cases hfl : rest ≠ [] ∨ (d.taken now).button ≠ some first.button
    · rw [ButtonDebounce.endReport_flush now hr hfl]
      have hstart := htaken.append (htaken.tracks.flush now)
      have hset := htaken.tracks.flush_settled now
      rw [← levels_append] at hset
      by_cases hrest : rest = []
      · subst hrest
        rw [List.foldl_cons, List.foldl_nil, ButtonDebounce.endChange_flushed]
        exact hstart.append ((hset.seed since hf.1).change now rfl hf.1)
      · obtain ⟨out, d', hfold, hdel⟩ := several_delivers now (first :: rest) _ hset hstart.tracks hf
        rw [decide_eq_true hrest, hfold]
        exact hstart.append hdel
    · obtain ⟨rfl, hb⟩ : rest = [] ∧ (d.taken now).button = some first.button := by simpa using hfl
      rw [ButtonDebounce.endReport_one now hr hb]
      exact htaken.append (htaken.tracks.change now hb hf.1)

/-! ## The device thread -/

/-- One call of the device thread: a change read, the end of the report at its time, or a wake at the deadline. -/
inductive Call where
  | changed (change : ButtonChange)
  | endReport (now : Nat)
  | expire (now : Nat)
  deriving DecidableEq

/-- A grabbed mouse: which buttons are down and when each last changed, up to the last report that ended, the time the
timers were last run at, and what has been delivered. -/
structure Mouse where
  debounce : ButtonDebounce
  down : KeyCode → Bool
  since : KeyCode → Nat
  ranAt : Nat
  delivered : List ButtonChange

namespace Mouse

def start (busType vendor product : UInt16) : Mouse :=
  ⟨.forDevice busType vendor product, fun _ => false, fun _ => 0, 0, []⟩

def step (m : Mouse) : Call → Option Mouse
  | .changed change => some { m with debounce := m.debounce.changed change }
  | .endReport now =>
    some
      { debounce := (m.debounce.endReport now).2
        down := levels ButtonChange.button ButtonChange.pressed m.down m.debounce.report
        since := sinceOf now m.since m.debounce.report
        ranAt := now
        delivered := m.delivered ++ (m.debounce.endReport now).1 }
  | .expire now =>
    some { m with
      debounce := (m.debounce.expire now).2, ranAt := now, delivered := m.delivered ++ (m.debounce.expire now).1 }

/-- A switch reads up and down in turn: a change is never to the level its button has. -/
def Edge (m : Mouse) : Call → Prop
  | .changed change =>
    change.pressed = !levels ButtonChange.button ButtonChange.pressed m.down m.debounce.report change.button
  | _ => True

instance decidableEdge (m : Mouse) (call : Call) : Decidable (Edge m call) := by
  cases call <;> dsimp only [Edge] <;> infer_instance

/-- The level of the last change of a button that was delivered; every button starts released. -/
def shown (m : Mouse) : KeyCode → Bool := levels ButtonChange.button ButtonChange.pressed (fun _ => false) m.delivered

structure Inv (m : Mouse) : Prop where
  delivers : Delivers (fun _ => false) m.down m.since m.delivered m.debounce
  quiet : m.debounce.Quiet m.ranAt
  report : Flips ButtonChange.button ButtonChange.pressed m.down m.debounce.report

theorem inv_start (busType vendor product : UInt16) : Inv (start busType vendor product) := by
  refine ⟨⟨trivial, ?_⟩, ⟨fun t h => ?_, fun t h => ?_⟩, trivial⟩
  · unfold start ButtonDebounce.forDevice
    by_cases hn : busType = busUsb ∧ vendor = logitechVendorId ∧ product ∈ neverDebounced
    · exact .off (by simp only [if_pos hn]) rfl rfl rfl
    · exact .fresh rfl (by simp only [if_neg hn]) rfl rfl rfl
  · cases h
  · cases h

theorem inv_step {m m' : Mouse} {call : Call} (hi : Inv m) (he : Edge m call) (hs : step m call = some m') :
    Inv m' := by
  cases call with
  | changed change =>
    obtain rfl := Option.some.inj hs
    refine ⟨⟨hi.delivers.flips, hi.delivers.tracks.withReport _⟩, ⟨hi.quiet.bounce, hi.quiet.short⟩, ?_⟩
    exact (flips_append _ _ _).2 ⟨hi.report, he, trivial⟩
  | endReport now =>
    obtain rfl := Option.some.inj hs
    refine ⟨hi.delivers.append (hi.delivers.tracks.endReport now hi.report), m.debounce.endReport_quiet now, ?_⟩
    show Flips _ _ _ (m.debounce.endReport now).2.report
    rw [m.debounce.endReport_report now]
    trivial
  | expire now =>
    obtain rfl := Option.some.inj hs
    refine ⟨hi.delivers.append (hi.delivers.tracks.expire now), m.debounce.expire_quiet now, ?_⟩
    show Flips _ _ _ (m.debounce.expire now).2.report
    rw [m.debounce.expire_report now]
    exact hi.report

/-- **Every stream of reports**: each button's delivered changes go down and up in turn, every button but the tracked
one is delivered up to date, and so is a button that was still for the bounce timeout when the timers ran. -/
theorem delivered_stream (busType vendor product : UInt16) {calls : List Call} {m : Mouse}
    (he : Along step Edge (start busType vendor product) calls)
    (hr : run step (start busType vendor product) calls = some m) :
    (∀ b, Alternates false ((m.delivered.filter fun change => change.button = b).map ButtonChange.pressed)) ∧
      (∀ b, m.debounce.button ≠ some b → m.shown b = m.down b) ∧
      ∀ b, m.since b + bounceTimeout ≤ m.ranAt → m.shown b = m.down b := by
  have hi : Inv m := along_inv Inv Edge (fun _ _ _ => inv_step) calls _ m (inv_start busType vendor product) he hr
  exact ⟨(flips_iff_alternates _ _).1 hi.delivers.flips, fun b hb => hi.delivers.tracks.others_eq hb,
    fun b hb => hi.delivers.tracks.still_eq hi.quiet hb⟩

/-- A click that bounces, then another button before the release of the first was due. -/
def bouncedClick : List Call :=
  [.changed ⟨272, true⟩, .endReport 0, .changed ⟨272, false⟩, .endReport 4000000, .changed ⟨272, true⟩,
    .endReport 6000000, .changed ⟨272, false⟩, .endReport 9000000, .changed ⟨273, true⟩, .endReport 20000000,
    .changed ⟨273, false⟩, .endReport 30000000, .expire 60000000]

theorem delivered_stream_bounce :
    ∃ m, run step (start 0x03 0x046D 0xB034) bouncedClick = some m ∧
      m.delivered = [⟨272, true⟩, ⟨272, false⟩, ⟨273, true⟩, ⟨273, false⟩] ∧
      m.shown 272 = m.down 272 ∧ m.shown 273 = m.down 273 := by
  refine ⟨_, rfl, by decide, ?_, ?_⟩
  · exact (@delivered_stream 0x03 0x046D 0xB034 bouncedClick _ (by decide) rfl).2.1 272 (by decide)
  · exact (@delivered_stream 0x03 0x046D 0xB034 bouncedClick _ (by decide) rfl).2.2 273 (by decide)

end Mouse
end Debounce
end OpenLogi
