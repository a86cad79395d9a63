import OpenLogi.Inject.Chords
/-!
# Keystroke — one-shot keystrokes beside held chords

`pressKey` taps a key with modifiers on the virtual device that the held chords are posted to.  It leaves out the
modifiers that a chord owns, and no other key.  Keys are evdev codes; the device drops a press of a key that is down.
-/
namespace OpenLogi
namespace Inject

open Lib (levels EveryState)

abbrev KeyCode := Nat

/-! ## The codes -/

def letters : List KeyCode :=
  [30, 48, 46, 32, 18, 33, 34, 35, 23, 36, 37, 38, 50, 49, 24, 25, 16, 19, 31, 20, 22, 47, 17, 45, 21, 44]

def digits : List KeyCode := [2, 3, 4, 5, 6, 7, 8, 9, 10, 11]

def functions : List KeyCode :=
  [59, 60, 61, 62, 63, 64, 65, 66, 67, 68, 87, 88, 183, 184, 185, 186, 187, 188, 189, 190]

/-- The keys outside the three rows, by usage. -/
def otherKeys : List (Nat × KeyCode) :=
  [(0x28, 28), (0x29, 1), (0x2a, 14), (0x2b, 15), (0x2c, 57), (0x2d, 12), (0x2e, 13), (0x2f, 26), (0x30, 27),
    (0x31, 43), (0x33, 39), (0x34, 40), (0x35, 41), (0x36, 51), (0x37, 52), (0x38, 53), (0x46, 99), (0x49, 110),
    (0x4a, 102), (0x4b, 104), (0x4c, 111), (0x4d, 107), (0x4e, 109), (0x4f, 106), (0x50, 105), (0x51, 108),
    (0x52, 103)]

def hidUsageToLinux (usage : UInt8) : Option KeyCode :=
  let u := usage.toNat
  if 0x04 ≤ u ∧ u ≤ 0x1d then letters[u - 0x04]?
  else if 0x1e ≤ u ∧ u ≤ 0x27 then digits[u - 0x1e]?
  else if 0x3a ≤ u ∧ u ≤ 0x45 then functions[u - 0x3a]?
  else if 0x68 ≤ u ∧ u ≤ 0x6f then functions[u - 0x68 + 12]?
  else otherKeys.lookup u

/-- macOS alone has a Command key. -/
def heldKeycode : HeldKey → Option KeyCode
  | .command => none
  | .control => some 29
  | .shift => some 42
  | .alt => some 56
  | .super => some 125
  | .key usage => hidUsageToLinux usage

/-! ## The keystroke -/

def HeldOutput.keepsDown (output : HeldOutput) (key : HeldKey) : Bool := (output.owners key).isSome

def unheldModifiers (mods : List KeyCode) (held : HeldOutput) : List KeyCode :=
  let heldCodes := ([HeldKey.control, .shift, .alt, .super].filter held.keepsDown).filterMap heldKeycode
  mods.filter fun code => code ∉ heldCodes

def keyPhaseEvents (mods : List KeyCode) (key : KeyCode) : KeyPhase → List (KeyCode × KeyPhase)
  | .down => (mods ++ [key]).map fun code => (code, .down)
  | .up => (mods ++ [key]).reverse.map fun code => (code, .up)

/-- The edges of a keystroke, in two frames. -/
def pressKey (mods : List KeyCode) (key : KeyCode) (held : HeldOutput) : List (KeyCode × KeyPhase) :=
  keyPhaseEvents (unheldModifiers mods held) key .down ++ keyPhaseEvents (unheldModifiers mods held) key .up

/-! ## The device -/

/-- The edges that reach the device: a key without a code is ignored. -/
def deviceEdges (edges : List (HeldKey × KeyPhase)) : List (KeyCode × KeyPhase) :=
  edges.filterMap fun edge => (heldKeycode edge.1).map fun code => (code, edge.2)

def codeIsDown (edge : KeyCode × KeyPhase) : Bool := edge.2 = .down

/-- The keys down on the device after the edges of the held chords. -/
def Sys.device (s : Sys) : KeyCode → Bool :=
  levels Prod.fst codeIsDown (fun _ => false) (deviceEdges s.posted)

/-- The keystroke lifts nothing that is down, and the device holds what it held. -/
def LeavesAlone (s : Sys) (mods : List KeyCode) (key : KeyCode) : Prop :=
  (∀ code, s.device code = true → (code, KeyPhase.up) ∉ pressKey mods key s.output) ∧
    levels Prod.fst codeIsDown s.device (pressKey mods key s.output) = s.device

/-- No chord owns the key of the keystroke, nor as an ordinary key one of its modifiers. -/
def Clear (s : Sys) (mods : List KeyCode) (key : KeyCode) : Prop :=
  ∀ owned code, s.output.keepsDown owned = true → heldKeycode owned = some code →
    code ≠ key ∧ (code ∈ mods → owned ∈ [HeldKey.control, .shift, .alt, .super])

/-! ## One code for each key -/

def allUsages : List UInt8 := (List.range 256).map UInt8.ofNat

/-- The keys that have a code. -/
def codedKeys : List HeldKey :=
  ([HeldKey.control, .shift, .alt, .super] ++ allUsages.map HeldKey.key).filter fun key => (heldKeycode key).isSome

theorem nodup_codes : (codedKeys.map heldKeycode).Nodup := by decide +kernel

variable {code : KeyCode}

theorem mem_codedKeys {key : HeldKey} (h : heldKeycode key = some code) : key ∈ codedKeys := by
  refine List.mem_filter.2 ⟨?_, by rw [h]; rfl⟩
  cases key with
  | command => cases h
  | key usage =>
    refine List.mem_append_right _ (List.mem_map.2 ⟨usage, List.mem_map.2 ⟨usage.toNat, ?_, ?_⟩, rfl⟩)
    · exact List.mem_range.2 usage.toNat_lt
    · exact UInt8.ofNat_toNat
  | super => exact List.mem_append_left _ (by decide)
  | control => exact List.mem_append_left _ (by decide)
  | shift => exact List.mem_append_left _ (by decide)
  | alt => exact List.mem_append_left _ (by decide)

/-- **No two keys share a code.** -/
theorem heldKeycode_inj {a b : HeldKey} (ha : heldKeycode a = some code) (hb : heldKeycode b = some code) : a = b :=
  List.inj_on_of_nodup_map nodup_codes (mem_codedKeys ha) (mem_codedKeys hb) (ha.trans hb.symm)

/-! ## What is down on the device -/

/-- The level of a code is that of its key. -/
theorem levels_deviceEdges {key : HeldKey} (hcode : heldKeycode key = some code) :
    ∀ (edges : List (HeldKey × KeyPhase)) (f : HeldKey → Bool) (g : KeyCode → Bool), g code = f key →
      levels Prod.fst codeIsDown g (deviceEdges edges) code = levels Prod.fst isDown f edges key
  | [], _, _, h => h
  | (key', phase) :: edges, f, g, h => by
    have hlevel : isDown (key', phase) = codeIsDown (code, phase) := rfl
    cases hkey : heldKeycode key' with
    | none =>
      have hne : key ≠ key' := by
        rintro rfl
        cases hkey.symm.trans hcode
      have hskip : deviceEdges ((key', phase) :: edges) = deviceEdges edges := by
        rw [deviceEdges, List.filterMap_cons_none (by rw [hkey]; rfl)]
        rfl
      rw [hskip, Lib.levels_cons]
      refine levels_deviceEdges hcode edges _ g (h.trans ?_)
      rw [Function.update_of_ne hne]
    | some code' =>
      have htake : deviceEdges ((key', phase) :: edges) = (code', phase) :: deviceEdges edges := by
        rw [deviceEdges, List.filterMap_cons_some (by rw [hkey]; rfl)]
        rfl
      rw [htake, Lib.levels_cons, Lib.levels_cons]
      refine levels_deviceEdges hcode edges _ _ ?_
      by_cases hsame : key = key'
      · subst hsame
        cases hkey.symm.trans hcode
        rw [Function.update_self, Function.update_self]
        exact hlevel.symm
      · have hne : code ≠ code' := by
          rintro rfl
          exact hsame (heldKeycode_inj hcode hkey)
        rw [Function.update_of_ne hne, Function.update_of_ne hsame]
        exact h

theorem mem_deviceEdges {edges : List (HeldKey × KeyPhase)} (h : code ∈ (deviceEdges edges).map Prod.fst) :
    ∃ key, heldKeycode key = some code := by
  obtain ⟨edge, hedge, rfl⟩ := List.mem_map.1 h
  obtain ⟨held, -, hheld⟩ := List.mem_filterMap.1 hedge
  obtain ⟨code, hcode, rfl⟩ := Option.map_eq_some_iff.1 hheld
  exact ⟨held.1, hcode⟩

/-- On Linux every owner pressed its key. -/
structure LinuxInv (s : Sys) : Prop where
  inv : Inv .linux s
  posted : ∀ key owned, s.output.owners key = some owned → owned.press = .posted

theorem linuxInv_start : LinuxInv {} := ⟨inv_start .linux, fun _ _ h => nomatch h⟩

theorem linuxInv_step {s s' : Sys} (hi : LinuxInv s) {e : Event} (hs : s.step .linux e = some s') : LinuxInv s' := by
  refine ⟨(inv_step hi.inv hs).1, ?_⟩
  obtain ⟨⟨released, pressed, chords, outside⟩, he, rfl⟩ := Option.map_eq_some_iff.1 hs
  intro key owned howned
  cases hi.inv.keyStep released pressed chords outside key with
  | free hb ha hp => cases ha.symm.trans howned
  | taken hb hp ha =>
    cases ha.symm.trans howned
    rfl
  | kept press n m hb ha hcount hm =>
    cases ha.symm.trans howned
    exact hi.posted key ⟨n, press⟩ hb
  | left owned' hb ha hr hp hlast => cases ha.symm.trans howned

/-- **A code is down on the device exactly when a held chord owns its key.** -/
theorem device_iff {s : Sys} (hi : LinuxInv s) (code : KeyCode) :
    s.device code = true ↔ ∃ key, s.output.keepsDown key = true ∧ heldKeycode key = some code := by
  have hlevel : ∀ key, heldKeycode key = some code → s.device code = s.output.keepsDown key := by
    intro key hcode
    rw [Sys.device, levels_deviceEdges hcode s.posted (fun _ => false) _ rfl, hi.inv.level key]
    unfold HeldOutput.keepsDown
    cases howned : s.output.owners key with
    | none => rfl
    | some owned => simp [Owned.posted, hi.posted key owned howned]
  constructor
  · intro hdown
    by_cases hmem : code ∈ (deviceEdges s.posted).map Prod.fst
    · obtain ⟨key, hcode⟩ := mem_deviceEdges hmem
      exact ⟨key, hlevel key hcode ▸ hdown, hcode⟩
    · rw [Sys.device, Lib.levels_of_not_mem _ _ _ hmem] at hdown
      cases hdown
  · rintro ⟨key, hkept, hcode⟩
    rw [hlevel key hcode]
    exact hkept

/-! ## What a keystroke does to it -/

/-- The codes a keystroke taps. -/
def tapped (mods : List KeyCode) (key : KeyCode) (held : HeldOutput) : List KeyCode := unheldModifiers mods held ++ [key]

theorem mem_pressKey {mods : List KeyCode} {key : KeyCode} {held : HeldOutput} :
    (code, KeyPhase.up) ∈ pressKey mods key held ↔ code ∈ tapped mods key held := by
  simp [pressKey, keyPhaseEvents, tapped, or_comm]

theorem levels_pressKey (mods : List KeyCode) (key : KeyCode) (held : HeldOutput) (f : KeyCode → Bool)
    (code : KeyCode) :
    levels Prod.fst codeIsDown f (pressKey mods key held) code =
      if code ∈ tapped mods key held then false else f code := by
  have hdown : ∀ edge ∈ keyPhaseEvents (unheldModifiers mods held) key .down, codeIsDown edge = true := by
    intro edge hedge
    obtain ⟨_, _, rfl⟩ := List.mem_map.1 hedge
    rfl
  have hup : ∀ edge ∈ keyPhaseEvents (unheldModifiers mods held) key .up, codeIsDown edge = false := by
    intro edge hedge
    obtain ⟨_, _, rfl⟩ := List.mem_map.1 hedge
    rfl
  have hcodes : ∀ phase, code ∈ (keyPhaseEvents (unheldModifiers mods held) key phase).map Prod.fst ↔
      code ∈ tapped mods key held := by
    intro phase
    cases phase <;> simp [keyPhaseEvents, tapped, or_comm]
  rw [pressKey, Lib.levels_append, Lib.levels_of_level _ _ hup, Lib.levels_of_level _ _ hdown]
  simp only [hcodes]
  split <;> rfl

/-- A keystroke leaves the chords alone exactly when it taps nothing that is down. -/
theorem leavesAlone_iff (s : Sys) (mods : List KeyCode) (key : KeyCode) :
    LeavesAlone s mods key ↔ ∀ code ∈ tapped mods key s.output, s.device code = false := by
  constructor
  · intro h code hcode
    by_contra hdown
    exact h.1 code (by simpa using hdown) (mem_pressKey.2 hcode)
  · intro h
    refine ⟨fun code hdown hmem => ?_, funext fun code => ?_⟩
    · rw [h code (mem_pressKey.1 hmem)] at hdown
      cases hdown
    · rw [levels_pressKey]
      split
      · exact (h code ‹_›).symm
      · rfl

theorem mem_tapped {mods : List KeyCode} {key : KeyCode} {held : HeldOutput} :
    code ∈ tapped mods key held ↔ code = key ∨ (code ∈ mods ∧ ∀ owned ∈ [HeldKey.control, .shift, .alt, .super],
      held.keepsDown owned = true → heldKeycode owned ≠ some code) := by
  unfold tapped unheldModifiers
  simp only [List.mem_append, List.mem_filter, List.mem_filterMap, List.mem_singleton, decide_eq_true_eq]
  constructor
  · rintro (⟨hmods, hnot⟩ | rfl)
    · exact Or.inr ⟨hmods, fun owned hmem hkept hcode => hnot ⟨owned, ⟨hmem, hkept⟩, hcode⟩⟩
    · exact Or.inl rfl
  · rintro (rfl | ⟨hmods, hnot⟩)
    · exact Or.inr rfl
    · refine Or.inl ⟨hmods, ?_⟩
      rintro ⟨owned, ⟨hmem, hkept⟩, hcode⟩
      exact hnot owned hmem hkept hcode

theorem clear_iff {s : Sys} (hi : LinuxInv s) (mods : List KeyCode) (key : KeyCode) :
    Clear s mods key ↔ ∀ code ∈ tapped mods key s.output, s.device code = false := by
  constructor
  · intro h code hcode
    by_contra hdown
    obtain ⟨owned, hkept, howned⟩ := (device_iff hi code).1 (by simpa using hdown)
    obtain ⟨hne, hmodifier⟩ := h owned code hkept howned
    rcases mem_tapped.1 hcode with rfl | ⟨hmods, hnot⟩
    · exact hne rfl
    · exact hnot owned (hmodifier hmods) hkept howned
  · intro h owned code hkept howned
    have hdown : s.device code = true := (device_iff hi code).2 ⟨owned, hkept, howned⟩
    have hnot : code ∉ tapped mods key s.output := fun hcode => by
      rw [h code hcode] at hdown
      cases hdown
    refine ⟨fun heq => hnot (mem_tapped.2 (Or.inl heq)), fun hmods => ?_⟩
    by_contra hordinary
    refine hnot (mem_tapped.2 (Or.inr ⟨hmods, fun other hmem _ hother => hordinary ?_⟩))
    rw [heldKeycode_inj howned hother]
    exact hmem

/-- **A one-shot keystroke leaves held chords alone exactly when no chord owns its key**, nor as an ordinary key one of
its modifiers. -/
theorem leavesAlone_iff_clear (events : List Event) :
    EveryState (Sys.step .linux) (fun s => ∀ mods key, LeavesAlone s mods key ↔ Clear s mods key) {} events := by
  intro pre s hpre hrun mods key
  have hi := Lib.run_inv LinuxInv (fun _ _ _ hi hs => linuxInv_step hi hs) pre {} s linuxInv_start hrun
  rw [leavesAlone_iff, clear_iff hi]

/-- The A key, held as a whole chord. -/
def heldA : Chord := ⟨⟨0, 0x04⟩, .wholeChord⟩

/-- A tap of the A key lifts the A of a held chord. -/
theorem keystroke_lifts_held : ¬ ∀ events : List Event,
    EveryState (Sys.step .linux) (fun s => ∀ mods key, LeavesAlone s mods key) {} events := by
  intro h
  obtain ⟨s, hs⟩ : ∃ s, Lib.run (Sys.step .linux) {} [.pressHold 0 heldA fun _ => false] = some s := ⟨_, rfl⟩
  have halone := (h _ _ s List.prefix_rfl hs [] 30).1 30
  cases hs
  exact halone (by decide +kernel) (by decide +kernel)

end Inject
end OpenLogi
