import OpenLogi.Session.Accum
import OpenLogi.Session.Planes
/-!
# MouseEdges — the edges of a mouse session

A mouse session as two planes: the `0x1b04` controls and the spied mask.  A reconnect clears both, and is reported for
the mask only.
-/
namespace OpenLogi
namespace Session

open OpenLogi.Core Lib

/-- The controls a mouse session captures.  Each button is fed by one of them. -/
structure MouseWiring where
  armed : ArmedControls
  /-- The captured slots of the spied mask. -/
  captured : List (Fin 16 × ButtonId)
  gestureCids : (armed.gestures.map Prod.fst).Nodup
  buttonCids : (armed.buttonSet.map Prod.fst).Nodup
  /-- The gesture sources have a list of their own. -/
  standard : ∀ p ∈ armed.gestureButtonCids, gestureSourceButton p.1 = none
  apart : (armed.gestures.map Prod.snd ++ (if armed.dpiCids.isEmpty then [] else [ButtonId.dpiToggle]) ++
    armed.buttonSet.map Prod.snd ++ captured.map Prod.snd).Nodup

/-- What the reports of a mouse session are diffed against. -/
structure MouseSession where
  accum : CaptureAccum := {}
  spied : BitVec 16 := 0

inductive MouseReport where
  | divertedButtons (cids : List UInt16) (now : Nat)
  | rawXy (dx dy : Int) (now later : Nat)
  | spiedButtons (mask : BitVec 16)
  /-- The mouse reconnects: `reset_input_state`. -/
  | reconnect
  deriving DecidableEq

inductive MousePlane where
  | reprog | spied
  deriving DecidableEq

namespace MouseWiring

variable (m : MouseWiring)

/-- One report or reconnect of a mouse. -/
def turn (s : MouseSession) : MouseReport → Turn × MouseSession
  | .divertedButtons cids now =>
    let (sent, accum) := s.accum.onButtons m.armed cids now
    (⟨false, (m.armed.held cids).map Prod.snd ++
      (if m.armed.dpiCids.any fun cid => cid ∈ cids then [.dpiToggle] else []) ++
      (m.armed.buttonSet.filter fun p => p.1 ∈ cids).map Prod.snd, sent⟩, { s with accum })
  | .rawXy dx dy now later =>
    let (sent, accum) := s.accum.onRawXy dx dy now later
    (⟨false, [], sent⟩, { s with accum })
  | .spiedButtons mask =>
    (⟨false, (m.captured.filter fun p => mask.getLsbD p.1).map Prod.snd, SpyEdges.onMask s.spied mask m.captured⟩,
      { s with spied := mask })
  | .reconnect => (⟨true, [], SpyEdges.interrupt s.spied⟩, {})

/-- The turns of a session. -/
def turns : MouseSession → List MouseReport → List Turn
  | _, [] => []
  | s, r :: rs => (m.turn s r).1 :: turns (m.turn s r).2 rs

/-! ## Sources -/

def gestureSources (down cids : List UInt16) : List Source :=
  m.armed.gestures.map fun p => ⟨p.2, decide (p.1 ∈ down), decide (p.1 ∈ cids)⟩

def dpiSources (was : Bool) (cids : List UInt16) : List Source :=
  if m.armed.dpiCids.isEmpty then [] else [⟨.dpiToggle, was, m.armed.dpiCids.any fun cid => cid ∈ cids⟩]

def buttonSources (down cids : List UInt16) : List Source :=
  m.armed.buttonSet.map fun p => ⟨p.2, decide (p.1 ∈ down), decide (p.1 ∈ cids)⟩

def spiedSources (held mask : BitVec 16) : List Source :=
  m.captured.map fun p => ⟨p.2, held.getLsbD p.1, mask.getLsbD p.1⟩

/-- The sources of the `0x1b04` controls. -/
def reprogSources (accum : CaptureAccum) (cids : List UInt16) : List Source :=
  m.gestureSources accum.gesturesDown cids ++ m.dpiSources accum.dpiDown cids ++ m.buttonSources accum.buttonsDown cids

def gestureLevel (accum : CaptureAccum) : List (ButtonId × Bool) :=
  m.armed.gestures.map fun p => (p.2, decide (p.1 ∈ accum.gesturesDown))

def dpiLevel (accum : CaptureAccum) : List (ButtonId × Bool) :=
  if m.armed.dpiCids.isEmpty then [] else [(.dpiToggle, accum.dpiDown)]

def buttonLevel (accum : CaptureAccum) : List (ButtonId × Bool) :=
  m.armed.buttonSet.map fun p => (p.2, decide (p.1 ∈ accum.buttonsDown))

/-- The buttons of a plane and whether each is held. -/
def levels (s : MouseSession) : MousePlane → List (ButtonId × Bool)
  | .reprog => m.gestureLevel s.accum ++ m.dpiLevel s.accum ++ m.buttonLevel s.accum
  | .spied => m.captured.map fun p => (p.2, s.spied.getLsbD p.1)

/-- The sources that are down are armed ones in their order, and no DPI button is down where none is armed. -/
structure Wired (s : MouseSession) : Prop where
  gestures : ∃ P : UInt16 → Bool, s.accum.gesturesDown = (m.armed.gestures.map Prod.fst).filter P
  dpi : m.armed.dpiCids = [] → s.accum.dpiDown = false

variable {m}

theorem dispatched {p : UInt16 × ButtonId} (hp : p ∈ m.armed.gestures) :
    capturedGestureButton p.1 m.armed.gestureButtonCids = some p.2 := by
  obtain hsource | hstandard := List.mem_append.1 hp
  · obtain ⟨cid, -, hcid⟩ := List.mem_filterMap.1 hsource
    obtain ⟨button, hbutton, rfl⟩ := Option.map_eq_some_iff.1 hcid
    simp [capturedGestureButton, hbutton]
  · have hn : (m.armed.gestureButtonCids.map Prod.fst).Nodup := by
      have h := m.gestureCids
      rw [ArmedControls.gestures, List.map_append] at h
      exact (List.nodup_append.1 h).2.1
    have hfind : m.armed.gestureButtonCids.find? (fun q => q.1 = p.1) = some p := by
      generalize m.armed.gestureButtonCids = set at hn hstandard
      induction set with
      | nil => cases hstandard
      | cons q set ih =>
        rw [List.map_cons, List.nodup_cons] at hn
        obtain rfl | hmem := List.mem_cons.1 hstandard
        · simp
        · have hne : q.1 ≠ p.1 := fun he => hn.1 (he ▸ List.mem_map.2 ⟨p, hmem, rfl⟩)
          rw [List.find?_cons_of_neg (by simpa using hne), ih hn.2 hmem]
    simp [capturedGestureButton, m.standard p hstandard, hfind]

/-- **The edges of the gesture sources**, releases first. -/
theorem gestureEdges_edged (accum : CaptureAccum) (cids : List UInt16)
    (hdown : ∃ P : UInt16 → Bool, accum.gesturesDown = (m.armed.gestures.map Prod.fst).filter P)
    (hn : ((m.gestureSources accum.gesturesDown cids).map (·.button)).Nodup) :
    Edged (accum.gestureEdges (m.armed.held cids) m.armed.gestureButtonCids)
      (m.gestureSources accum.gesturesDown cids) := by
  have hedged := edged_releases_presses hn
  obtain ⟨P, hP⟩ := hdown
  have hups : (accum.gesturesDown.filterMap fun cid =>
      if (m.armed.held cids).any fun p => p.1 = cid then none
      else (capturedGestureButton cid m.armed.gestureButtonCids).map CapturedInput.buttonUp) =
      ((m.gestureSources accum.gesturesDown cids).filter fun s => s.was && !s.now).map (.buttonUp ·.button) := by
    rw [gestureSources, List.filter_map, List.map_map, ← List.filterMap_eq_map, List.filterMap_filter]
    conv => lhs; rw [hP]
    rw [List.filter_map, List.filterMap_map, List.filterMap_filter]
    refine List.filterMap_congr fun p hp => ?_
    have hwas : decide (p.1 ∈ accum.gesturesDown) = P p.1 := by
      have hmem : p.1 ∈ m.armed.gestures.map Prod.fst := List.mem_map.2 ⟨p, hp, rfl⟩
      rw [Bool.eq_iff_iff, decide_eq_true_eq, hP, List.mem_filter]
      exact and_iff_right hmem
    have hnow : ((m.armed.held cids).any fun q => q.1 = p.1) = decide (p.1 ∈ cids) := by
      rw [ArmedControls.held_eq, Bool.eq_iff_iff]
      simp only [List.any_eq_true, List.mem_filter, decide_eq_true_eq]
      exact ⟨fun ⟨q, ⟨_, hin⟩, he⟩ => he ▸ hin, fun hin => ⟨p, ⟨hp, hin⟩, rfl⟩⟩
    simp only [Function.comp_apply, hwas, hnow, dispatched hp, Option.map_some]
    cases P p.1 <;> by_cases hin : p.1 ∈ cids <;> simp [hin]
  have hdowns : ((m.armed.held cids).filter fun p => decide (p.1 ∉ accum.gesturesDown)).map
      (fun p => CapturedInput.buttonDown p.2) =
      ((m.gestureSources accum.gesturesDown cids).filter fun s => s.now && !s.was).map (.buttonDown ·.button) := by
    rw [ArmedControls.held_eq, gestureSources, List.filter_map, List.map_map, List.filter_filter]
    congr 1
    refine List.filter_congr fun p _ => ?_
    simp [Bool.and_comm]
  rw [CaptureAccum.gestureEdges, hups, hdowns]
  exact hedged

theorem dpi_edged {accum : CaptureAccum} (cids : List UInt16) (hdpi : m.armed.dpiCids = [] → accum.dpiDown = false) :
    Edged (edge accum.dpiDown (m.armed.dpiCids.any fun cid => cid ∈ cids) .dpiToggle)
      (m.dpiSources accum.dpiDown cids) := by
  cases hd : m.armed.dpiCids with
  | nil =>
    rw [hdpi hd, dpiSources, hd]
    exact edged_nil
  | cons d ds =>
    rw [dpiSources, hd]
    have hone := edged_flatMap [⟨.dpiToggle, accum.dpiDown, (d :: ds).any fun cid => cid ∈ cids⟩]
    rwa [List.flatMap_singleton] at hone

theorem buttons_edged (accum : CaptureAccum) (cids : List UInt16) :
    Edged (CaptureAccum.pressButtons cids m.armed.buttonSet accum.buttonsDown).1
      (m.buttonSources accum.buttonsDown cids) := by
  have hall := edged_flatMap (m.buttonSources accum.buttonsDown cids)
  rw [buttonSources, List.flatMap_map] at hall
  rw [CaptureAccum.pressButtons_fst m.buttonCids]
  exact hall

theorem spied_edged (held mask : BitVec 16) :
    Edged (SpyEdges.onMask held mask m.captured) (m.spiedSources held mask) := by
  have hall := edged_flatMap (m.spiedSources held mask)
  rw [spiedSources, List.flatMap_map] at hall
  rw [SpyEdges.onMask_eq]
  exact hall

/-! ## Buttons -/

theorem gestureSources_buttons (down cids : List UInt16) :
    (m.gestureSources down cids).map (·.button) = m.armed.gestures.map Prod.snd := by
  rw [gestureSources, List.map_map]
  rfl

theorem dpiSources_buttons (was : Bool) (cids : List UInt16) :
    (m.dpiSources was cids).map (·.button) = if m.armed.dpiCids.isEmpty then [] else [.dpiToggle] := by
  unfold dpiSources
  split <;> rfl

theorem buttonSources_buttons (down cids : List UInt16) :
    (m.buttonSources down cids).map (·.button) = m.armed.buttonSet.map Prod.snd := by
  rw [buttonSources, List.map_map]
  rfl

theorem reprogSources_buttons (accum : CaptureAccum) (cids : List UInt16) :
    (m.reprogSources accum cids).map (·.button) = m.armed.gestures.map Prod.snd ++
      (if m.armed.dpiCids.isEmpty then [] else [.dpiToggle]) ++ m.armed.buttonSet.map Prod.snd := by
  rw [reprogSources, List.map_append, List.map_append, gestureSources_buttons, dpiSources_buttons,
    buttonSources_buttons]

theorem reprogSources_was (accum : CaptureAccum) (spied : BitVec 16) (cids : List UInt16) :
    (m.reprogSources accum cids).map (fun x => (x.button, x.was)) = m.levels ⟨accum, spied⟩ .reprog := by
  simp only [reprogSources, levels, gestureSources, dpiSources, buttonSources, gestureLevel, dpiLevel, buttonLevel,
    List.map_append, List.map_map]
  cases m.armed.dpiCids.isEmpty <;> rfl

variable (s : MouseSession)

theorem levels_fst (p : MousePlane) : (m.levels s p).map Prod.fst = match p with
    | .reprog => m.armed.gestures.map Prod.snd ++ (if m.armed.dpiCids.isEmpty then [] else [.dpiToggle]) ++
        m.armed.buttonSet.map Prod.snd
    | .spied => m.captured.map Prod.snd := by
  cases p with
  | reprog =>
    rw [← reprogSources_was s.accum s.spied [], ← reprogSources_buttons s.accum [], List.map_map]
    rfl
  | spied =>
    rw [levels, List.map_map]
    rfl

/-! ## Reports -/

theorem buttons_reported {s : MouseSession} (hw : m.Wired s) (cids : List UInt16) (now : Nat) :
    Reported (m.turn s (.divertedButtons cids now)).1 (m.reprogSources s.accum cids) := by
  have hapart := m.apart
  rw [List.nodup_append] at hapart
  have hgestures : ((m.gestureSources s.accum.gesturesDown cids).map (·.button)).Nodup := by
    rw [gestureSources_buttons]
    exact (List.nodup_append.1 (List.nodup_append.1 hapart.1).1).1
  have hclick := (gestureEdges_edged s.accum cids hw.gestures hgestures).gesture
    (s.accum.nextHold (m.armed.held cids) cids now).1 (s.accum.nextHold_clicks _ now)
  refine ⟨rfl, (hclick.append (dpi_edged cids hw.dpi)).append (buttons_edged s.accum cids), ?_, fun b hb => ?_,
    fun x hx hnow => ?_⟩
  · rw [reprogSources_buttons]
    exact hapart.1
  · simp only [turn, ArmedControls.held_eq, List.mem_append] at hb
    obtain (hb | hb) | hb := hb
    · obtain ⟨p, hp, rfl⟩ := List.mem_map.1 hb
      obtain ⟨hp, hin⟩ := List.mem_filter.1 hp
      exact ⟨_, List.mem_append_left _ (List.mem_append_left _ (List.mem_map.2 ⟨p, hp, rfl⟩)), rfl, hin⟩
    · split at hb
      · rename_i hany
        have hne : m.armed.dpiCids.isEmpty = false := by
          cases hd : m.armed.dpiCids with
          | nil => rw [hd] at hany; cases hany
          | cons d ds => rfl
        refine ⟨⟨.dpiToggle, s.accum.dpiDown, _⟩, ?_, (List.mem_singleton.1 hb).symm, hany⟩
        refine List.mem_append_left _ (List.mem_append_right _ ?_)
        rw [dpiSources, hne]
        exact List.mem_singleton.2 rfl
      · cases hb
    · obtain ⟨p, hp, rfl⟩ := List.mem_map.1 hb
      obtain ⟨hp, hin⟩ := List.mem_filter.1 hp
      exact ⟨_, List.mem_append_right _ (List.mem_map.2 ⟨p, hp, rfl⟩), rfl, hin⟩
  · simp only [turn, ArmedControls.held_eq, List.mem_append]
    simp only [reprogSources, List.mem_append] at hx
    obtain (hx | hx) | hx := hx
    · obtain ⟨p, hp, rfl⟩ := List.mem_map.1 hx
      exact .inl (.inl (List.mem_map.2 ⟨p, List.mem_filter.2 ⟨hp, hnow⟩, rfl⟩))
    · unfold dpiSources at hx
      split at hx
      · cases hx
      · obtain rfl := List.mem_singleton.1 hx
        rw [if_pos hnow]
        exact .inl (.inr (List.mem_singleton.2 rfl))
    · obtain ⟨p, hp, rfl⟩ := List.mem_map.1 hx
      exact .inr (List.mem_map.2 ⟨p, List.mem_filter.2 ⟨hp, hnow⟩, rfl⟩)

theorem spied_reported (mask : BitVec 16) :
    Reported (m.turn s (.spiedButtons mask)).1 (m.spiedSources s.spied mask) :=
  .of_controls (List.nodup_append.1 m.apart).2.1 (spied_edged s.spied mask)

/-- After a report the controls are held as it shows them. -/
theorem reprogSources_now (cids : List UInt16) (now : Nat) :
    (m.reprogSources s.accum cids).map (fun x => (x.button, x.now)) =
      m.levels (m.turn s (.divertedButtons cids now)).2 .reprog := by
  have hgestures : m.gestureLevel (m.turn s (.divertedButtons cids now)).2.accum =
      m.armed.gestures.map fun p => (p.2, decide (p.1 ∈ cids)) := by
    refine List.map_congr_left fun p hp => ?_
    have hmem : p.1 ∈ (m.armed.held cids).map Prod.fst ↔ p.1 ∈ cids := by
      rw [ArmedControls.held_eq]
      constructor
      · intro h
        obtain ⟨q, hq, he⟩ := List.mem_map.1 h
        exact he ▸ of_decide_eq_true (List.mem_filter.1 hq).2
      · exact fun h => List.mem_map.2 ⟨p, List.mem_filter.2 ⟨hp, decide_eq_true h⟩, rfl⟩
    simp only [turn, CaptureAccum.onButtons, hmem]
  have hbuttons : m.buttonLevel (m.turn s (.divertedButtons cids now)).2.accum =
      m.armed.buttonSet.map fun p => (p.2, decide (p.1 ∈ cids)) := by
    refine List.map_congr_left fun p hp => ?_
    have hset : p.1 ∈ m.armed.buttonSet.map Prod.fst := List.mem_map.2 ⟨p, hp, rfl⟩
    simp only [turn, CaptureAccum.onButtons, CaptureAccum.mem_pressButtons, if_pos hset]
  rw [levels, hgestures, hbuttons, dpiLevel]
  simp only [reprogSources, gestureSources, dpiSources, buttonSources, List.map_append, List.map_map]
  cases m.armed.dpiCids.isEmpty <;> rfl

theorem wired_turn (e : MouseReport) (hw : m.Wired s) : m.Wired (m.turn s e).2 := by
  cases e with
  | divertedButtons cids now =>
    refine ⟨⟨fun cid => cid ∈ cids, ?_⟩, fun hd => ?_⟩
    · simp only [turn, CaptureAccum.onButtons, ArmedControls.held_eq, List.filter_map]
      rfl
    · simp [turn, CaptureAccum.onButtons, hd]
  | rawXy dx dy now later =>
    obtain ⟨hgestures, hdpi, -⟩ := s.accum.onRawXy_down dx dy now later
    exact ⟨hgestures ▸ hw.gestures, fun hd => hdpi.trans (hw.dpi hd)⟩
  | spiedButtons mask => exact ⟨hw.gestures, hw.dpi⟩
  | reconnect => exact ⟨⟨fun _ => false, (List.filter_false _).symm⟩, fun _ => rfl⟩

/-! ## The planes -/

/-- The plane that a report is diffed against; motion is diffed against none. -/
def plane : MouseReport → Option MousePlane
  | .divertedButtons _ _ => some .reprog
  | .spiedButtons _ => some .spied
  | .rawXy _ _ _ _ | .reconnect => none

theorem levels_apart (p : MousePlane) : ((m.levels s p).map Prod.fst).Nodup := by
  have hapart := List.nodup_append.1 m.apart
  rw [levels_fst]
  cases p with
  | reprog => exact hapart.1
  | spied => exact hapart.2.1

theorem levels_disjoint (p q : MousePlane) (b : ButtonId) (hp : b ∈ (m.levels s p).map Prod.fst)
    (hq : b ∈ (m.levels s q).map Prod.fst) : p = q := by
  have hapart := (List.nodup_append.1 m.apart).2.2
  rw [levels_fst] at hp hq
  cases p <;> cases q
  · rfl
  · exact absurd rfl (hapart b hp b hq)
  · exact absurd rfl (hapart b hq b hp)
  · rfl

/-- A reconnect leaves no control held. -/
theorem levels_clear (p : MousePlane) : ∀ x ∈ m.levels {} p, x.2 = false := by
  intro x hx
  cases p with
  | reprog =>
    simp only [levels, List.mem_append] at hx
    obtain (hx | hx) | hx := hx
    · obtain ⟨q, -, rfl⟩ := List.mem_map.1 hx
      rfl
    · unfold dpiLevel at hx
      split at hx
      · cases hx
      · rw [List.mem_singleton.1 hx]
    · obtain ⟨q, -, rfl⟩ := List.mem_map.1 hx
      rfl
  | spied =>
    obtain ⟨q, -, rfl⟩ := List.mem_map.1 hx
    simp

variable (m) in
/-- A mouse session by planes. -/
def planes : Planes MouseSession MouseReport MousePlane where
  turn := m.turn
  levels := m.levels
  stale := fun _ _ => false
  interrupts := fun s => decide (s.spied ≠ 0)
  isReset := fun e => decide (e = .reconnect)
  plane := plane
  Wired := m.Wired
  wired_turn := wired_turn
  apart := fun s _ p => levels_apart s p
  disjoint := fun s _ => levels_disjoint s
  report := by
    intro s hw e _ p hp
    cases e with
    | divertedButtons cids now =>
      cases hp
      refine ⟨_, buttons_reported hw cids now, reprogSources_was s.accum s.spied cids, reprogSources_now s cids now,
        rfl, fun q hq => ⟨?_, rfl⟩⟩
      cases q with
      | reprog => exact absurd rfl hq
      | spied => rfl
    | spiedButtons mask =>
      cases hp
      refine ⟨_, spied_reported s mask, ?_, ?_, rfl, fun q hq => ⟨?_, rfl⟩⟩
      · rw [spiedSources, List.map_map]
        rfl
      · rw [spiedSources, List.map_map]
        rfl
      · cases q with
        | reprog => rfl
        | spied => exact absurd rfl hq
    | rawXy dx dy now later => cases hp
    | reconnect => cases hp
  silent := by
    intro s _ e he hp
    cases e with
    | divertedButtons cids now => cases hp
    | spiedButtons mask => cases hp
    | reconnect => cases he
    | rawXy dx dy now later =>
      have hsent := edged_nil.gesture _ (s.accum.onRawXy_gestures dx dy now later)
      rw [List.append_nil] at hsent
      obtain ⟨hgestures, hdpi, hbuttons⟩ := s.accum.onRawXy_down dx dy now later
      refine ⟨⟨rfl, hsent, List.nodup_nil, fun b hb => (by cases hb), fun x hx => (by cases hx)⟩, ?_, rfl⟩
      funext p
      cases p with
      | reprog => simp only [levels, gestureLevel, dpiLevel, buttonLevel, turn, hgestures, hdpi, hbuttons]
      | spied => rfl
  reset := by
    intro s e he
    obtain rfl := of_decide_eq_true he
    refine ⟨?_, fun p => ⟨?_, .inl ⟨levels_clear p, rfl⟩⟩⟩
    · by_cases hs : s.spied = 0 <;> simp [turn, SpyEdges.interrupt, hs]
    · rw [levels_fst, levels_fst]

/-! ## Balance -/

variable (m) in
/-- A `0x1b04` control of the session is held. -/
def AnyHeld (s : MouseSession) : Prop := anyHeld (m.levels s .reprog) = true

instance (s : MouseSession) : Decidable (m.AnyHeld s) := inferInstanceAs (Decidable (_ = _))

variable (m) in
/-- No reconnect comes while a `0x1b04` control is held and no spied button is. -/
def Timely (s : MouseSession) (e : MouseReport) : Prop := e = .reconnect → m.AnyHeld s → s.spied ≠ 0

variable (m) in
def step (s : MouseSession) (e : MouseReport) : Option MouseSession := some (m.turn s e).2

theorem spied_of_held {s : MouseSession} (h : anyHeld (m.levels s .spied) = true) : s.spied ≠ 0 := by
  obtain ⟨x, hx, hheld⟩ := List.any_eq_true.1 h
  obtain ⟨p, -, rfl⟩ := List.mem_map.1 hx
  intro hzero
  rw [hzero] at hheld
  simp at hheld

theorem timely_iff (e : MouseReport) : m.planes.Timely s e ↔ m.Timely s e := by
  unfold Planes.Timely Timely
  by_cases he : e = .reconnect
  · have hreset : m.planes.isReset e = true := decide_eq_true he
    rw [if_pos hreset]
    refine ⟨fun h _ hheld => ?_, fun h p hp => .inr (decide_eq_true ?_)⟩
    · obtain hstale | hint := h .reprog hheld
      · cases hstale
      · exact of_decide_eq_true hint
    · cases p with
      | reprog => exact h he hp
      | spied => exact spied_of_held hp
  · have hreset : ¬m.planes.isReset e = true := by simpa [planes] using he
    rw [if_neg hreset]
    exact iff_of_true (fun _ _ => rfl) fun h => absurd h he

theorem balanced_iff (es : List MouseReport) : Balanced (m.turns {} es) ↔ Along m.step m.Timely {} es := by
  have hstart : m.Wired {} := ⟨⟨fun _ => false, (List.filter_false _).symm⟩, fun _ => rfl⟩
  have hturns : ∀ (es : List MouseReport) (s : MouseSession), m.planes.turns s es = m.turns s es := by
    intro es
    induction es with
    | nil => exact fun _ => rfl
    | cons e es ih => exact fun s => congrArg _ (ih _)
  have h := Planes.balanced_iff (c := m.planes) hstart levels_clear (fun _ => rfl) es
  rw [hturns] at h
  have htimely : m.planes.Timely = m.Timely := by
    funext s e
    exact propext (timely_iff s e)
  rwa [htimely] at h

end MouseWiring

end Session
end OpenLogi
