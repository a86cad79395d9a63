import OpenLogi.Session.Keys
import OpenLogi.Session.Planes
/-!
# KeyboardEdges — the edges of a keyboard session

A keyboard session as five planes.  A reconnect clears the three of the gaming cluster, and is reported for them only;
the controls and the grid keys held over it stay held, and are stale until their next report.
-/
namespace OpenLogi
namespace Session

open OpenLogi.Core Lib

def clusterButtons : List ButtonId :=
  GKey.all.map gKeyButton ++ mKeyBits.map (fun p => .modeKey p.1) ++ [.modeKey .macroRecord]

/-- What a keyboard session captures.  Each button is fed by one control. -/
structure KeyboardWiring where
  controls : ButtonMap UInt16
  grid : ButtonMap UInt8
  features : GamingFeatures
  gRow : Bool
  modeKeys : ModeKey → Bool
  apart : (controls.toList.map Prod.snd ++ grid.toList.map Prod.snd ++ clusterButtons).Nodup

/-- The session before its first report. -/
def KeyboardWiring.start (m : KeyboardWiring) : KeyboardSession where
  keys := { buttons := m.controls, held := fun _ => false }
  grid := { buttons := m.grid, held := fun _ => false }
  gaming :=
    { features := m.features
      gRow := m.gRow
      modeKeys := m.modeKeys
      gHeld := 0
      mHeld := fun _ => false
      mrHeld := false }

inductive KeyboardPlane where
  | controls | grid | gKeys | mKeys | macroRecord
  deriving DecidableEq

/-! ## The history of a session -/

/-- A session, and whether a control or a grid key was held over a reconnect with no report of its kind since. -/
structure KeyboardTrack where
  session : KeyboardSession
  staleControls : Bool := false
  staleGrid : Bool := false

namespace KeyboardTrack

def heldControls (t : KeyboardTrack) : Bool := t.session.keys.anyHeld

def heldGrid (t : KeyboardTrack) : Bool := t.session.grid.anyHeld

def nextStaleControls (t : KeyboardTrack) : KeyboardReport → Bool
  | .reconnect => t.staleControls || t.heldControls
  | .divertedButtons _ => false
  | .vendor _ | .gKeys _ | .mKeys _ | .macroRecord _ => t.staleControls

def nextStaleGrid (t : KeyboardTrack) : KeyboardReport → Bool
  | .reconnect => t.staleGrid || t.heldGrid
  | .vendor bytes => t.staleGrid && (gridKeyFrame bytes).isNone
  | .divertedButtons _ | .gKeys _ | .mKeys _ | .macroRecord _ => t.staleGrid

def next (t : KeyboardTrack) (r : KeyboardReport) : KeyboardTrack :=
  ⟨(t.session.turn r).2, t.nextStaleControls r, t.nextStaleGrid r⟩

def step (t : KeyboardTrack) (r : KeyboardReport) : Option KeyboardTrack := some (t.next r)

/-- A reconnect that finds a control or a grid key held is reported for the gaming cluster, unless one like it came
before; and no report comes of the controls, or of the grid, after one was held over a reconnect. -/
def Timely (t : KeyboardTrack) : KeyboardReport → Prop
  | .reconnect =>
    (t.heldControls → t.staleControls ∨ t.session.gaming.interrupts) ∧
      (t.heldGrid → t.staleGrid ∨ t.session.gaming.interrupts)
  | .divertedButtons _ => t.staleControls = false
  | .vendor bytes => (gridKeyFrame bytes).isSome → t.staleGrid = false
  | .gKeys _ | .mKeys _ | .macroRecord _ => True

instance (t : KeyboardTrack) (r : KeyboardReport) : Decidable (t.Timely r) :=
  match r with
  | .reconnect => inferInstanceAs (Decidable (_ ∧ _))
  | .divertedButtons _ => inferInstanceAs (Decidable (_ = _))
  | .vendor _ => inferInstanceAs (Decidable (_ → _))
  | .gKeys _ | .mKeys _ | .macroRecord _ => .isTrue trivial

end KeyboardTrack

namespace KeyboardSession

/-! ## Levels -/

/-- The buttons of a map and whether each is held. -/
def mapLevel {κ : Type} (buttons : List (κ × ButtonId)) (held : κ → Bool) : List (ButtonId × Bool) :=
  buttons.map fun p => (p.2, held p.1)

def levels (s : KeyboardSession) : KeyboardPlane → List (ButtonId × Bool)
  | .controls => mapLevel s.keys.buttons.toList s.keys.held
  | .grid => mapLevel s.grid.buttons.toList s.grid.held
  | .gKeys => GKey.all.map fun key => (gKeyButton key, s.gaming.gHeld.getLsbD (gKeyBit key))
  | .mKeys => mKeyBits.map fun p => (.modeKey p.1, s.gaming.mHeld p.1)
  | .macroRecord => [(.modeKey .macroRecord, s.gaming.mrHeld)]

/-- Each button is fed by one control. -/
def Wired (s : KeyboardSession) : Prop :=
  (s.keys.buttons.toList.map Prod.snd ++ s.grid.buttons.toList.map Prod.snd ++ clusterButtons).Nodup

variable {s : KeyboardSession}

theorem mapLevel_fst {κ : Type} (buttons : List (κ × ButtonId)) (held : κ → Bool) :
    (mapLevel buttons held).map Prod.fst = buttons.map Prod.snd := by
  rw [mapLevel, List.map_map]
  rfl

theorem anyHeld_mapLevel {κ : Type} (buttons : List (κ × ButtonId)) (held : κ → Bool) :
    anyHeld (mapLevel buttons held) = buttons.any fun p => held p.1 := by
  rw [anyHeld, mapLevel, List.any_map]
  rfl

/-- The buttons of each plane. -/
def planeButtons (s : KeyboardSession) : KeyboardPlane → List ButtonId
  | .controls => s.keys.buttons.toList.map Prod.snd
  | .grid => s.grid.buttons.toList.map Prod.snd
  | .gKeys => GKey.all.map gKeyButton
  | .mKeys => mKeyBits.map fun p => .modeKey p.1
  | .macroRecord => [.modeKey .macroRecord]

theorem levels_fst (s : KeyboardSession) (p : KeyboardPlane) : (s.levels p).map Prod.fst = s.planeButtons p := by
  cases p with
  | controls => exact mapLevel_fst _ _
  | grid => exact mapLevel_fst _ _
  | gKeys => rfl
  | mKeys => rfl
  | macroRecord => rfl

theorem Wired.apart (hw : s.Wired) (p : KeyboardPlane) : (s.planeButtons p).Nodup := by
  have hall := List.nodup_append.1 hw
  have hmaps := List.nodup_append.1 hall.1
  cases p with
  | controls => exact hmaps.1
  | grid => exact hmaps.2.1
  | gKeys => exact (by decide : (GKey.all.map gKeyButton).Nodup)
  | mKeys => exact (by decide : (mKeyBits.map fun p => ButtonId.modeKey p.1).Nodup)
  | macroRecord => exact List.nodup_singleton _

variable {p : KeyboardPlane} {b : ButtonId} {bytes : List UInt8}

/-- The buttons of the gaming cluster's planes are among the cluster's. -/
theorem mem_cluster (hp : p ≠ .controls) (hg : p ≠ .grid) (hb : b ∈ s.planeButtons p) : b ∈ clusterButtons := by
  cases p with
  | controls => exact absurd rfl hp
  | grid => exact absurd rfl hg
  | gKeys => exact List.mem_append_left _ (List.mem_append_left _ hb)
  | mKeys => exact List.mem_append_left _ (List.mem_append_right _ hb)
  | macroRecord => exact List.mem_append_right _ hb

/-- The planes of the cluster have different buttons. -/
theorem cluster_disjoint {q : KeyboardPlane} (hp : p ≠ .controls ∧ p ≠ .grid) (hq : q ≠ .controls ∧ q ≠ .grid)
    (hb : b ∈ s.planeButtons p) (hb' : b ∈ s.planeButtons q) : p = q := by
  have hrow : ∀ b ∈ GKey.all.map gKeyButton, b ∉ mKeyBits.map (fun p => ButtonId.modeKey p.1) ∧
      b ≠ .modeKey .macroRecord := by decide
  have hmodes : ButtonId.modeKey .macroRecord ∉ mKeyBits.map fun p => ButtonId.modeKey p.1 := by decide
  cases p with
  | controls => exact absurd rfl hp.1
  | grid => exact absurd rfl hp.2
  | gKeys =>
    cases q with
    | controls => exact absurd rfl hq.1
    | grid => exact absurd rfl hq.2
    | gKeys => rfl
    | mKeys => exact absurd hb' (hrow b hb).1
    | macroRecord => exact absurd (List.mem_singleton.1 hb') (hrow b hb).2
  | mKeys =>
    cases q with
    | controls => exact absurd rfl hq.1
    | grid => exact absurd rfl hq.2
    | gKeys => exact absurd hb (hrow b hb').1
    | mKeys => rfl
    | macroRecord => exact absurd (List.mem_singleton.1 hb' ▸ hb) hmodes
  | macroRecord =>
    cases q with
    | controls => exact absurd rfl hq.1
    | grid => exact absurd rfl hq.2
    | gKeys => exact absurd (List.mem_singleton.1 hb) (hrow b hb').2
    | mKeys => exact absurd (List.mem_singleton.1 hb ▸ hb') hmodes
    | macroRecord => rfl

theorem Wired.disjoint (hw : s.Wired) {q : KeyboardPlane} (hb : b ∈ s.planeButtons p) (hb' : b ∈ s.planeButtons q) :
    p = q := by
  have hall := List.nodup_append.1 hw
  have hmaps := List.nodup_append.1 hall.1
  -- a button of a map is fed by no other plane
  have hmap : ∀ {p q : KeyboardPlane}, b ∈ s.planeButtons p → b ∈ s.planeButtons q → p = .controls ∨ p = .grid →
      p = q := by
    intro p q hb hb' hp
    obtain rfl | rfl := hp
    · by_cases hq : q = .controls
      · exact hq.symm
      · by_cases hg : q = .grid
        · subst hg
          exact absurd rfl (hmaps.2.2 b hb b hb')
        · exact absurd rfl (hall.2.2 b (List.mem_append_left _ hb) b (mem_cluster hq hg hb'))
    · by_cases hg : q = .grid
      · exact hg.symm
      · by_cases hq : q = .controls
        · subst hq
          exact absurd rfl (hmaps.2.2 b hb' b hb)
        · exact absurd rfl (hall.2.2 b (List.mem_append_right _ hb) b (mem_cluster hq hg hb'))
  by_cases hp : p = .controls ∨ p = .grid
  · exact hmap hb hb' hp
  · by_cases hq : q = .controls ∨ q = .grid
    · exact (hmap hb' hb hq).symm
    · exact cluster_disjoint (not_or.1 hp) (not_or.1 hq) hb hb'

/-! ## Reports -/

theorem keys_reported (hw : s.Wired) (cids : List UInt16) :
    Reported (s.turn (.divertedButtons cids)).1
      (s.keys.buttons.toList.map fun p => ⟨p.2, s.keys.held p.1, decide (p.1 ∈ cids)⟩) := by
  refine .of_controls (hw.apart .controls) ?_
  have hall := edged_flatMap (s.keys.buttons.toList.map fun p => ⟨p.2, s.keys.held p.1, decide (p.1 ∈ cids)⟩)
  rwa [List.flatMap_map] at hall

theorem keys_now (s : KeyboardSession) (cids : List UInt16) :
    (s.turn (.divertedButtons cids)).2.levels .controls =
      s.keys.buttons.toList.map fun p => (p.2, decide (p.1 ∈ cids)) := by
  refine List.map_congr_left fun p hp => ?_
  have hin : p.1 ∈ s.keys.buttons :=
    Std.ExtTreeMap.mem_iff_isSome_getElem?.2 (Std.ExtTreeMap.mem_toList_iff_getElem?_eq_some.1 hp ▸ rfl)
  simp only [turn, DivertedKeys.report, if_pos hin]

theorem grid_reported (hw : s.Wired) {ids : List UInt8} (hframe : gridKeyFrame bytes = some ids) :
    Reported (s.turn (.vendor bytes)).1
      (s.grid.buttons.toList.map fun p =>
        ⟨p.2, s.grid.held p.1, decide (p.1 ∈ s.grid.buttons) && decide (p.1 ∈ ids)⟩) := by
  have hshown : (s.grid.buttons.toList.filter fun p => p.1 ∈ (gridKeyFrame bytes).getD []) =
      s.grid.buttons.toList.filter fun p => decide (p.1 ∈ s.grid.buttons) && decide (p.1 ∈ ids) := by
    refine List.filter_congr fun p hp => ?_
    have hin : p.1 ∈ s.grid.buttons :=
      Std.ExtTreeMap.mem_iff_isSome_getElem?.2 (Std.ExtTreeMap.mem_toList_iff_getElem?_eq_some.1 hp ▸ rfl)
    simp [hframe, hin]
  have hn : ((s.grid.buttons.toList.map fun p => (⟨p.2, s.grid.held p.1,
      decide (p.1 ∈ s.grid.buttons) && decide (p.1 ∈ ids)⟩ : Source)).map (·.button)).Nodup := by
    rw [List.map_map]
    exact hw.apart .grid
  have hedged := edged_releases_presses hn
  rw [List.filter_map, List.filter_map, List.map_map, List.map_map] at hedged
  simp only [turn, GridKeys.report, hframe]
  rw [hframe] at hshown
  rw [hshown]
  exact .of_controls (hw.apart .grid) hedged

theorem gKeys_reported (s : KeyboardSession) (held : BitVec 32) :
    Reported (s.turn (.gKeys held)).1 (GKey.all.map fun key => ⟨gKeyButton key, s.gaming.gHeld.getLsbD (gKeyBit key),
      (if s.gaming.gRow then held else 0).getLsbD (gKeyBit key)⟩) := by
  have hall := edged_flatMap (GKey.all.map fun key => ⟨gKeyButton key, s.gaming.gHeld.getLsbD (gKeyBit key),
    (if s.gaming.gRow then held else 0).getLsbD (gKeyBit key)⟩)
  rw [List.flatMap_map] at hall
  have hrep := Reported.of_controls (by decide) hall
  have hshown : (GKey.all.filter fun key => (if s.gaming.gRow then held else 0).getLsbD (gKeyBit key)).map gKeyButton =
      if s.gaming.gRow then (GKey.all.filter fun key => held.getLsbD (gKeyBit key)).map gKeyButton else [] := by
    cases s.gaming.gRow
    · simp
    · rfl
  rw [hshown] at hrep
  exact hrep

theorem mKeys_reported (s : KeyboardSession) (held : BitVec 8) :
    Reported (s.turn (.mKeys held)).1
      (mKeyBits.map fun p => ⟨.modeKey p.1, s.gaming.mHeld p.1, s.gaming.mNow held p⟩) := by
  have hall := edged_flatMap (mKeyBits.map fun p => ⟨.modeKey p.1, s.gaming.mHeld p.1, s.gaming.mNow held p⟩)
  rw [List.flatMap_map] at hall
  exact .of_controls (by decide) hall

theorem macroRecord_reported (s : KeyboardSession) (held : Bool) :
    Reported (s.turn (.macroRecord held)).1
      [⟨.modeKey .macroRecord, s.gaming.mrHeld, held && s.gaming.modeKeys .macroRecord⟩] := by
  have hall := edged_flatMap [⟨.modeKey .macroRecord, s.gaming.mrHeld, held && s.gaming.modeKeys .macroRecord⟩]
  rw [List.flatMap_singleton] at hall
  have hrep : Reported ⟨false, ([ModeKey.macroRecord].filter fun key => held && s.gaming.modeKeys key).map .modeKey, _⟩
      ([ModeKey.macroRecord].map fun key => ⟨.modeKey key, s.gaming.mrHeld, held && s.gaming.modeKeys key⟩) :=
    .of_controls (List.nodup_singleton _) hall
  have hshown : (([ModeKey.macroRecord].filter fun key => held && s.gaming.modeKeys key).map ButtonId.modeKey) =
      if held && s.gaming.modeKeys .macroRecord then [.modeKey .macroRecord] else [] := by
    cases h : held && s.gaming.modeKeys .macroRecord
    · simp [h]
    · simp [h]
  rw [hshown] at hrep
  exact hrep

/-! ## The planes -/

/-- The plane that a report is diffed against; a frame that decodes to none is ignored. -/
def plane : KeyboardReport → Option KeyboardPlane
  | .divertedButtons _ => some .controls
  | .vendor bytes => if (gridKeyFrame bytes).isSome then some .grid else none
  | .gKeys _ => some .gKeys
  | .mKeys _ => some .mKeys
  | .macroRecord _ => some .macroRecord
  | .reconnect => none

theorem plane_vendor :
    plane (.vendor bytes) = some p ↔ (gridKeyFrame bytes).isSome ∧ p = .grid := by
  change (if (gridKeyFrame bytes).isSome then some KeyboardPlane.grid else none) = some p ↔ _
  cases (gridKeyFrame bytes).isSome
  · simp
  · simp [eq_comm]

theorem vendor_ignored (hframe : gridKeyFrame bytes = none) :
    s.turn (.vendor bytes) = (⟨false, [], []⟩, s) := by
  simp [turn, GridKeys.report, hframe]

/-- What is dispatched stays. -/
theorem turn_buttons (s : KeyboardSession) (r : KeyboardReport) :
    (s.turn r).2.keys.buttons = s.keys.buttons ∧ (s.turn r).2.grid.buttons = s.grid.buttons := by
  cases r with
  | vendor bytes =>
    cases hframe : gridKeyFrame bytes with
    | none => simp [vendor_ignored hframe]
    | some ids => simp [turn, GridKeys.report, hframe]
  | divertedButtons cids => exact ⟨rfl, rfl⟩
  | gKeys held => exact ⟨rfl, rfl⟩
  | mKeys held => exact ⟨rfl, rfl⟩
  | macroRecord held => exact ⟨rfl, rfl⟩
  | reconnect => exact ⟨rfl, rfl⟩

theorem wired_turn (hw : s.Wired) (r : KeyboardReport) : (s.turn r).2.Wired := by
  unfold Wired
  rw [(turn_buttons s r).1, (turn_buttons s r).2]
  exact hw

theorem mKeys_now (s : KeyboardSession) (held : BitVec 8) :
    (s.turn (.mKeys held)).2.levels .mKeys = mKeyBits.map fun p => (.modeKey p.1, s.gaming.mNow held p) := by
  simp [turn, GamingKeys.onMKeys, levels, mKeyBits, Function.update]

end KeyboardSession

namespace KeyboardTrack

open KeyboardSession (plane)

def stale (t : KeyboardTrack) : KeyboardPlane → Bool
  | .controls => t.staleControls
  | .grid => t.staleGrid
  | .gKeys | .mKeys | .macroRecord => false

variable {p : KeyboardPlane}

/-- A report of one plane changes nothing of the others. -/
theorem others (t : KeyboardTrack) {r : KeyboardReport} (hp : plane r = some p) :
    ∀ q, q ≠ p → (t.next r).session.levels q = t.session.levels q ∧ (t.next r).stale q = t.stale q := by
  intro q hq
  cases r with
  | divertedButtons cids =>
    cases hp
    cases q <;> first | exact absurd rfl hq | exact ⟨rfl, rfl⟩
  | vendor bytes =>
    obtain ⟨-, rfl⟩ := KeyboardSession.plane_vendor.1 hp
    cases q <;> first | exact absurd rfl hq | exact ⟨rfl, rfl⟩
  | gKeys held =>
    cases hp
    cases q <;> first | exact absurd rfl hq | exact ⟨rfl, rfl⟩
  | mKeys held =>
    cases hp
    cases q <;> first | exact absurd rfl hq | exact ⟨rfl, rfl⟩
  | macroRecord held =>
    cases hp
    cases q <;> first | exact absurd rfl hq | exact ⟨rfl, rfl⟩
  | reconnect => cases hp

/-- A report is the edges of the plane it is diffed against. -/
theorem reported (t : KeyboardTrack) (hw : t.session.Wired) {r : KeyboardReport} (hp : plane r = some p) :
    ∃ ss : List Source, Reported (t.session.turn r).1 ss ∧
      ss.map (fun x => (x.button, x.was)) = t.session.levels p ∧
      ss.map (fun x => (x.button, x.now)) = (t.next r).session.levels p ∧ (t.next r).stale p = false := by
  cases r with
  | divertedButtons cids =>
    cases hp
    refine ⟨_, KeyboardSession.keys_reported hw cids, List.map_map.symm ▸ rfl, ?_, rfl⟩
    exact List.map_map.symm ▸ (KeyboardSession.keys_now t.session cids).symm
  | vendor bytes =>
    obtain ⟨hsome, rfl⟩ := KeyboardSession.plane_vendor.1 hp
    obtain ⟨ids, hframe⟩ := Option.isSome_iff_exists.1 hsome
    refine ⟨_, KeyboardSession.grid_reported hw hframe, List.map_map.symm ▸ rfl, ?_, ?_⟩
    · simp only [next, KeyboardSession.levels, KeyboardSession.turn, GridKeys.report, hframe, List.map_map]
      rfl
    · simp [next, nextStaleGrid, stale, hframe]
  | gKeys held =>
    cases hp
    exact ⟨_, KeyboardSession.gKeys_reported t.session held, List.map_map.symm ▸ rfl, List.map_map.symm ▸ rfl, rfl⟩
  | mKeys held =>
    cases hp
    refine ⟨_, KeyboardSession.mKeys_reported t.session held, List.map_map.symm ▸ rfl, ?_, rfl⟩
    exact List.map_map.symm ▸ (KeyboardSession.mKeys_now t.session held).symm
  | macroRecord held =>
    cases hp
    exact ⟨_, KeyboardSession.macroRecord_reported t.session held, rfl, rfl, rfl⟩
  | reconnect => cases hp

/-- A reconnect clears the planes of the cluster, and leaves the others as they are. -/
theorem reset_level (t : KeyboardTrack) (p : KeyboardPlane) :
    (∀ x ∈ (t.next .reconnect).session.levels p, x.2 = false) ∧ (t.next .reconnect).stale p = false ∨
      (t.next .reconnect).session.levels p = t.session.levels p ∧
        (t.next .reconnect).stale p = (t.stale p || anyHeld (t.session.levels p)) := by
  cases p with
  | controls =>
    refine .inr ⟨rfl, ?_⟩
    rw [KeyboardSession.levels, KeyboardSession.anyHeld_mapLevel]
    rfl
  | grid =>
    refine .inr ⟨rfl, ?_⟩
    rw [KeyboardSession.levels, KeyboardSession.anyHeld_mapLevel]
    rfl
  | gKeys =>
    refine .inl ⟨fun x hx => ?_, rfl⟩
    obtain ⟨key, -, rfl⟩ := List.mem_map.1 hx
    simp [next, KeyboardSession.turn, GamingKeys.interrupt]
  | mKeys =>
    refine .inl ⟨fun x hx => ?_, rfl⟩
    obtain ⟨p, -, rfl⟩ := List.mem_map.1 hx
    rfl
  | macroRecord => exact .inl ⟨fun x hx => (by rw [List.mem_singleton.1 hx]; rfl), rfl⟩

/-- A keyboard session by planes. -/
def planes : Planes KeyboardTrack KeyboardReport KeyboardPlane where
  turn := fun t r => ((t.session.turn r).1, t.next r)
  levels := fun t => t.session.levels
  stale := stale
  interrupts := fun t => t.session.gaming.interrupts
  isReset := fun r => decide (r = .reconnect)
  plane := plane
  Wired := fun t => t.session.Wired
  wired_turn := fun _ r hw => KeyboardSession.wired_turn hw r
  apart := fun t hw p => KeyboardSession.levels_fst t.session p ▸ hw.apart p
  disjoint := fun t hw p q b hp hq => by
    rw [KeyboardSession.levels_fst] at hp hq
    exact hw.disjoint hp hq
  report := by
    intro t hw r _ p hp
    obtain ⟨ss, hrep, hwas, hnow, hfresh⟩ := reported t hw hp
    exact ⟨ss, hrep, hwas, hnow, hfresh, others t hp⟩
  silent := by
    intro t _ r he hp
    cases r with
    | vendor bytes =>
      have hframe : gridKeyFrame bytes = none := by
        cases h : gridKeyFrame bytes with
        | none => rfl
        | some ids => simp [plane, h] at hp
      have hturn := KeyboardSession.vendor_ignored (s := t.session) hframe
      refine ⟨?_, ?_, ?_⟩
      · rw [hturn]
        exact ⟨rfl, edged_nil, List.nodup_nil, fun b hb => (by cases hb), fun x hx => (by cases hx)⟩
      · simp only [next, hturn]
      · funext p
        cases p <;> simp [next, nextStaleControls, nextStaleGrid, stale, hframe]
    | reconnect => cases he
    | divertedButtons cids => cases hp
    | gKeys held => cases hp
    | mKeys held => cases hp
    | macroRecord held => cases hp
  reset := by
    intro t r he
    obtain rfl := of_decide_eq_true he
    refine ⟨rfl, fun p => ⟨?_, reset_level t p⟩⟩
    rw [KeyboardSession.levels_fst, KeyboardSession.levels_fst]
    cases p <;> rfl

/-! ## Balance -/

theorem interrupts_of_held {t : KeyboardTrack} (hp : p ≠ .controls) (hg : p ≠ .grid)
    (h : anyHeld (t.session.levels p) = true) : t.session.gaming.interrupts = true := by
  obtain ⟨x, hx, hheld⟩ := List.any_eq_true.1 h
  simp only [GamingKeys.interrupts, Bool.or_eq_true, decide_eq_true_eq]
  cases p with
  | controls => exact absurd rfl hp
  | grid => exact absurd rfl hg
  | gKeys =>
    obtain ⟨key, -, rfl⟩ := List.mem_map.1 hx
    refine .inl (.inl (.inl fun hzero => ?_))
    rw [hzero] at hheld
    simp at hheld
  | mKeys =>
    obtain ⟨q, hq, rfl⟩ := List.mem_map.1 hx
    exact .inl (.inl (.inr (List.any_eq_true.2 ⟨q, hq, hheld⟩)))
  | macroRecord =>
    rw [List.mem_singleton.1 hx] at hheld
    exact .inl (.inr hheld)

theorem timely_iff (t : KeyboardTrack) (r : KeyboardReport) : planes.Timely t r ↔ t.Timely r := by
  cases r with
  | reconnect =>
    have hcontrols : anyHeld (t.session.levels .controls) = t.heldControls := KeyboardSession.anyHeld_mapLevel _ _
    have hgrid : anyHeld (t.session.levels .grid) = t.heldGrid := KeyboardSession.anyHeld_mapLevel _ _
    constructor
    · intro h
      exact ⟨fun hheld => h .controls (hcontrols.trans hheld), fun hheld => h .grid (hgrid.trans hheld)⟩
    · intro h p hheld
      by_cases hp : p = .controls
      · subst hp
        exact h.1 (hcontrols.symm.trans hheld)
      · by_cases hg : p = .grid
        · subst hg
          exact h.2 (hgrid.symm.trans hheld)
        · exact .inr (interrupts_of_held hp hg hheld)
  | divertedButtons cids => exact ⟨fun h => h _ rfl, fun h p hp => (by cases hp; exact h)⟩
  | vendor bytes =>
    constructor
    · intro h hsome
      exact h .grid (KeyboardSession.plane_vendor.2 ⟨hsome, rfl⟩)
    · intro h p hp
      obtain ⟨hsome, rfl⟩ := KeyboardSession.plane_vendor.1 hp
      exact h hsome
  | gKeys held => exact iff_of_true (fun p hp => (by cases hp; rfl)) trivial
  | mKeys held => exact iff_of_true (fun p hp => (by cases hp; rfl)) trivial
  | macroRecord held => exact iff_of_true (fun p hp => (by cases hp; rfl)) trivial

theorem balanced_iff (m : KeyboardWiring) (rs : List KeyboardReport) :
    Balanced (m.start.turns rs) ↔ Along step Timely { session := m.start } rs := by
  have hturns : ∀ (rs : List KeyboardReport) (t : KeyboardTrack), planes.turns t rs = t.session.turns rs := by
    intro rs
    induction rs with
    | nil => exact fun _ => rfl
    | cons r rs ih => exact fun t => congrArg _ (ih _)
  have hclear : ∀ p, ∀ x ∈ m.start.levels p, x.2 = false := by
    intro p x hx
    cases p with
    | controls | grid | mKeys =>
      obtain ⟨q, -, rfl⟩ := List.mem_map.1 hx
      rfl
    | gKeys =>
      obtain ⟨key, -, rfl⟩ := List.mem_map.1 hx
      simp [KeyboardWiring.start]
    | macroRecord => rw [List.mem_singleton.1 hx]; rfl
  have hfresh : ∀ p, planes.stale { session := m.start } p = false := by
    intro p
    cases p <;> rfl
  have h := Planes.balanced_iff (c := planes) (s := { session := m.start }) m.apart hclear hfresh rs
  rw [hturns] at h
  have htimely : planes.Timely = Timely := by
    funext t r
    exact propext (timely_iff t r)
  rwa [htimely] at h

end KeyboardTrack

end Session
end OpenLogi
