import OpenLogi.Core.Binding
import OpenLogi.Lib.Run
/-!
# Input — the edges a capture session sends

What a session captures, and what the agent may expect of it: the edges of each button go down and up in turn, with an
interruption as the end of every press.  `Watch` checks one button over the turns of a session; `Edged` says that a turn
sends exactly the edges of the buttons that changed.
-/
namespace OpenLogi
namespace Session

open OpenLogi.Core Lib

/-- What a session sends of buttons and gestures.  Its wheel inputs are no edges. -/
inductive CapturedInput where
  | gesture (button : ButtonId) (direction : GestureDirection)
  | buttonDown (button : ButtonId)
  | buttonUp (button : ButtonId)
  /-- The device power-cycled: presses still held are over. -/
  | interrupted
  deriving DecidableEq

/-! ## The watch of a button -/

/-- The edges of one button, from pressed or not: an edge that repeats is refused, an interruption ends the press. -/
def follow (b : ButtonId) : Bool → List CapturedInput → Option Bool
  | pressed, [] => some pressed
  | pressed, .buttonDown b' :: l => if b' = b then (if pressed then none else follow b true l) else follow b pressed l
  | pressed, .buttonUp b' :: l => if b' = b then (if pressed then follow b false l else none) else follow b pressed l
  | _, .interrupted :: l => follow b false l
  | pressed, .gesture _ _ :: l => follow b pressed l

/-- One report or reset as it is seen from outside: the captured buttons a report shows held, and what was sent. -/
structure Turn where
  reset : Bool
  shown : List ButtonId
  sent : List CapturedInput

/-- A button is pressed when its last edge went down; its press is due until a report after a reset shows it held. -/
structure Watch where
  pressed : Bool
  due : Bool
  deriving DecidableEq

namespace Watch

def start : Watch := ⟨false, false⟩

/-- A turn is refused when an edge repeats, when a reset leaves the button pressed, or when the first report after a
reset that shows the button held sends no press of it. -/
def turn (b : ButtonId) (w : Watch) (t : Turn) : Option Watch :=
  match follow b w.pressed t.sent with
  | none => none
  | some pressed =>
    if t.reset then if pressed then none else some ⟨false, true⟩
    else if b ∈ t.shown then if w.due && !decide (.buttonDown b ∈ t.sent) then none else some ⟨pressed, false⟩
    else some ⟨pressed, w.due⟩

end Watch

/-- No turn of a session is refused by the watch of any button. -/
def Balanced (turns : List Turn) : Prop := ∀ b, (run (Watch.turn b) .start turns).isSome

/-! ## Edges -/

/-- A button and whether what feeds it was held and is. -/
structure Source where
  button : ButtonId
  was : Bool
  now : Bool

/-- The edge of a button going from `was` to `now` held, if any. -/
def edge (was now : Bool) (button : ButtonId) : List CapturedInput :=
  if now && !was then [.buttonDown button] else if was && !now then [.buttonUp button] else []

def Source.edge (s : Source) : List CapturedInput := Session.edge s.was s.now s.button

/-- What ends or begins a press of `b`. -/
def about (b : ButtonId) : CapturedInput → Bool
  | .buttonDown b' | .buttonUp b' => b' = b
  | .interrupted => true
  | .gesture _ _ => false

/-- What is sent is, of each button, the edges of its sources. -/
def Edged (sent : List CapturedInput) (sources : List Source) : Prop :=
  ∀ b, sent.filter (about b) = (sources.filter fun s => s.button = b).flatMap Source.edge

theorem follow_filter (b : ButtonId) : ∀ (l : List CapturedInput) (pressed : Bool),
    follow b pressed (l.filter (about b)) = follow b pressed l
  | [], _ => rfl
  | .gesture _ _ :: l, pressed => follow_filter b l pressed
  | .interrupted :: l, _ => follow_filter b l false
  | .buttonDown b' :: l, pressed => by
    by_cases h : b' = b
    · simp [follow, about, h, follow_filter b l]
    · simp [follow, about, h, follow_filter b l]
  | .buttonUp b' :: l, pressed => by
    by_cases h : b' = b
    · simp [follow, about, h, follow_filter b l]
    · simp [follow, about, h, follow_filter b l]

theorem edge_about (s : Source) (b : ButtonId) : s.edge.filter (about b) = if s.button = b then s.edge else [] := by
  obtain ⟨button, was, now⟩ := s
  by_cases h : button = b
  · cases was <;> cases now <;> simp [Source.edge, Session.edge, about, h]
  · cases was <;> cases now <;> simp [Source.edge, Session.edge, about, h]

theorem edged_nil : Edged [] [] := fun _ => rfl

variable {ss : List Source}

theorem Edged.append {xs ys : List CapturedInput} {ts : List Source} (h : Edged xs ss) (h' : Edged ys ts) :
    Edged (xs ++ ys) (ss ++ ts) := fun b => by
  rw [List.filter_append, List.filter_append, List.flatMap_append, h b, h' b]

/-- Gestures are no edges. -/
theorem Edged.gesture {xs : List CapturedInput} (h : Edged xs ss) (click : List CapturedInput)
    (hclick : ∀ x ∈ click, ∃ button direction, x = .gesture button direction) : Edged (click ++ xs) ss := fun b => by
  have hnone : click.filter (about b) = [] := List.filter_eq_nil_iff.2 fun x hx => by
    obtain ⟨button, direction, rfl⟩ := hclick x hx
    simp [about]
  rw [List.filter_append, hnone, List.nil_append, h b]

/-- The edges of sources in their order. -/
theorem edged_flatMap : ∀ (ss : List Source), Edged (ss.flatMap Source.edge) ss
  | [], _ => rfl
  | s :: ss, b => by
    rw [List.flatMap_cons, List.filter_append, edge_about, edged_flatMap ss b, List.filter_cons]
    by_cases h : s.button = b
    · simp [h]
    · simp [h]

/-- The releases of sources, then their presses, once each button has one source. -/
theorem edged_releases_presses (hn : (ss.map (·.button)).Nodup) :
    Edged ((ss.filter fun s => s.was && !s.now).map (.buttonUp ·.button) ++
      (ss.filter fun s => s.now && !s.was).map (.buttonDown ·.button)) ss := by
  induction ss with
  | nil => exact edged_nil
  | cons s ss ih =>
    rw [List.map_cons, List.nodup_cons] at hn
    intro b
    have h := ih hn.2 b
    rw [List.filter_append] at h ⊢
    simp only [List.filter_cons]
    by_cases hb : s.button = b
    · -- the other sources feed other buttons
      have hnone : (ss.filter fun t => t.button = b) = [] := List.filter_eq_nil_iff.2 fun t ht htb =>
        hn.1 (hb ▸ of_decide_eq_true htb ▸ List.mem_map.2 ⟨t, ht, rfl⟩)
      rw [hnone, List.flatMap_nil, List.append_eq_nil_iff] at h
      obtain ⟨hup, hdown⟩ := h
      cases hw : s.was <;> cases hnow : s.now <;>
        simp [Source.edge, Session.edge, about, hb, hw, hnow, hup, hdown, hnone]
    · have hdec : ¬decide (s.button = b) = true := by simpa using hb
      rw [if_neg hdec, ← h]
      cases s.was <;> cases s.now <;> simp [about, hb]

/-! ## Sources told apart -/

section

variable {sent : List CapturedInput} {ss : List Source}

variable {s : Source}

theorem filter_button (hn : (ss.map (·.button)).Nodup) (hs : s ∈ ss) :
    (ss.filter fun t => t.button = s.button) = [s] := by
  induction ss with
  | nil => cases hs
  | cons t ss ih =>
    rw [List.map_cons, List.nodup_cons] at hn
    obtain rfl | hs := List.mem_cons.1 hs
    · have hnone : (ss.filter fun t => t.button = s.button) = [] := List.filter_eq_nil_iff.2 fun t ht htb =>
        hn.1 (of_decide_eq_true htb ▸ List.mem_map.2 ⟨t, ht, rfl⟩)
      simp [hnone]
    · have hne : t.button ≠ s.button := fun h => hn.1 (h ▸ List.mem_map.2 ⟨s, hs, rfl⟩)
      simp [hne, ih hn.2 hs]

/-- **A button follows its source.** -/
theorem Edged.follow (h : Edged sent ss) (hn : (ss.map (·.button)).Nodup) (hs : s ∈ ss) :
    follow s.button s.was sent = some s.now := by
  rw [← follow_filter, h, filter_button hn hs]
  obtain ⟨button, was, now⟩ := s
  cases was <;> cases now <;> simp [Source.edge, Session.edge, Session.follow]

/-- An edge sent to a button that is in its place already is refused. -/
theorem Edged.refused (h : Edged sent ss) (hn : (ss.map (·.button)).Nodup) (hs : s ∈ ss) (hne : s.was ≠ s.now)
    {pressed : Bool} (hp : pressed = s.now) : Session.follow s.button pressed sent = none := by
  rw [← follow_filter, h, filter_button hn hs]
  obtain ⟨button, was, now⟩ := s
  subst hp
  cases was <;> cases pressed <;> simp_all [Source.edge, Session.edge, Session.follow]

theorem Edged.follow_other (h : Edged sent ss) {b : ButtonId} (hb : b ∉ ss.map (·.button)) (pressed : Bool) :
    Session.follow b pressed sent = some pressed := by
  have hnone : (ss.filter fun s => s.button = b) = [] := List.filter_eq_nil_iff.2 fun s hs hsb =>
    hb (of_decide_eq_true hsb ▸ List.mem_map.2 ⟨s, hs, rfl⟩)
  rw [← follow_filter, h, hnone]
  rfl

/-- **A press is sent exactly when its source goes down.** -/
theorem Edged.down_iff (h : Edged sent ss) (hn : (ss.map (·.button)).Nodup) (hs : s ∈ ss) :
    .buttonDown s.button ∈ sent ↔ s.was = false ∧ s.now = true := by
  have hmem : CapturedInput.buttonDown s.button ∈ sent ↔
      CapturedInput.buttonDown s.button ∈ sent.filter (about s.button) := by
    simp [List.mem_filter, about]
  rw [hmem, h, filter_button hn hs]
  obtain ⟨button, was, now⟩ := s
  cases was <;> cases now <;> simp [Source.edge, Session.edge]

end

/-! ## Turns -/

/-- A turn that reports: it sends the edges of its sources, and shows those that are held. -/
structure Reported (t : Turn) (ss : List Source) : Prop where
  report : t.reset = false
  edged : Edged t.sent ss
  apart : (ss.map (·.button)).Nodup
  held : ∀ b ∈ t.shown, ∃ s ∈ ss, s.button = b ∧ s.now = true
  shown : ∀ s ∈ ss, s.now = true → s.button ∈ t.shown

/-- A report of controls that each feed a button of their own. -/
theorem Reported.of_controls {α : Type} {controls : List α} {button : α → ButtonId} {was now : α → Bool}
    {sent : List CapturedInput} (hn : (controls.map button).Nodup)
    (hsent : Edged sent (controls.map fun p => ⟨button p, was p, now p⟩)) :
    Reported ⟨false, (controls.filter now).map button, sent⟩ (controls.map fun p => ⟨button p, was p, now p⟩) where
  report := rfl
  edged := hsent
  apart := by rwa [List.map_map]
  held := by
    intro b hb
    obtain ⟨p, hp, rfl⟩ := List.mem_map.1 hb
    obtain ⟨hp, hnow⟩ := List.mem_filter.1 hp
    exact ⟨_, List.mem_map.2 ⟨p, hp, rfl⟩, rfl, hnow⟩
  shown := by
    intro s hs hnow
    obtain ⟨p, hp, rfl⟩ := List.mem_map.1 hs
    exact List.mem_map.2 ⟨p, List.mem_filter.2 ⟨hp, hnow⟩, rfl⟩

/-- The watch of a button agrees with what the session holds of it. -/
structure Watch.Tracks (w : Watch) (held : Bool) : Prop where
  pressed : w.pressed = held
  due : w.due = true → held = false

section

variable {t : Turn} {ss : List Source} {w : Watch}

variable {s : Source}

theorem Reported.now_of_shown (h : Reported t ss) (hs : s ∈ ss) (hshown : s.button ∈ t.shown) :
    s.now = true := by
  obtain ⟨s', hs', hb, hnow⟩ := h.held s.button hshown
  have hfilter := filter_button h.apart hs
  have hmem : s' ∈ ss.filter fun x => x.button = s.button := List.mem_filter.2 ⟨hs', decide_eq_true hb⟩
  rw [hfilter, List.mem_singleton] at hmem
  exact hmem ▸ hnow

/-- **A button that agrees with its source is accepted, and agrees again.** -/
theorem Reported.tracks (h : Reported t ss) (hs : s ∈ ss) (hw : w.Tracks s.was) :
    ∃ w', Watch.turn s.button w t = some w' ∧ w'.Tracks s.now := by
  have hfollow := h.edged.follow h.apart hs
  rw [← hw.pressed] at hfollow
  simp only [Watch.turn, hfollow, h.report, Bool.false_eq_true, if_false]
  by_cases hshown : s.button ∈ t.shown
  · have hnow := h.now_of_shown hs hshown
    rw [if_pos hshown]
    have hsent : (w.due && !decide (.buttonDown s.button ∈ t.sent)) = false := by
      cases hd : w.due with
      | false => rfl
      | true =>
        have hdown := (h.edged.down_iff h.apart hs).2 ⟨hw.due hd, hnow⟩
        simp [hdown]
    rw [hsent]
    exact ⟨⟨s.now, false⟩, rfl, rfl, fun hd => (by cases hd)⟩
  · rw [if_neg hshown]
    exact ⟨⟨s.now, w.due⟩, rfl, rfl, fun _ => Bool.eq_false_iff.2 fun hnow => hshown (h.shown s hs hnow)⟩

/-- A button that no source feeds is accepted as it is. -/
theorem Reported.other (h : Reported t ss) {b : ButtonId} (hb : b ∉ ss.map (·.button)) :
    Watch.turn b w t = some w := by
  have hshown : b ∉ t.shown := fun hin => by
    obtain ⟨s, hs, rfl, -⟩ := h.held b hin
    exact hb (List.mem_map.2 ⟨s, hs, rfl⟩)
  simp only [Watch.turn, h.edged.follow_other hb, h.report, Bool.false_eq_true, if_false, if_neg hshown]

/-- **A press that is over for the watch and not for the session is refused by the next report of its control.** -/
theorem Reported.refused (h : Reported t ss) (hs : s ∈ ss) (hwas : s.was = true) (hp : w.pressed = false)
    (hd : w.due = true) : Watch.turn s.button w t = none := by
  cases hnow : s.now with
  | false =>
    have hfollow := h.edged.refused h.apart hs (by simp [hwas, hnow]) (hp.trans hnow.symm)
    simp only [Watch.turn, hfollow]
  | true =>
    have hsent : CapturedInput.buttonDown s.button ∉ t.sent := fun hin =>
      absurd ((h.edged.down_iff h.apart hs).1 hin).1 (by simp [hwas])
    have hfollow : follow s.button w.pressed t.sent = some w.pressed := by
      rw [← follow_filter, h.edged, filter_button h.apart hs]
      simp [Source.edge, edge, follow, hwas, hnow]
    simp [Watch.turn, hfollow, h.report, h.shown s hs hnow, hd, hsent]

/-- What a reset makes of a watch, by whether it is reported. -/
theorem Watch.turn_reset (b : ButtonId) (w : Watch) (interrupts : Bool) :
    Watch.turn b w ⟨true, [], if interrupts then [.interrupted] else []⟩ =
      if interrupts || !w.pressed then some ⟨false, true⟩ else none := by
  obtain ⟨pressed, due⟩ := w
  cases interrupts <;> cases pressed <;> rfl

end

end Session
end OpenLogi
