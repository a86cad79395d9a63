import OpenLogi.Core.Binding
/-!
# Held — chords held down

`HeldOutput` counts how many held chords own a physical key, and remembers who pressed it.  A transition releases one
chord and holds another around the keys that are already down.
-/
namespace OpenLogi
namespace Inject

open OpenLogi.Core (KeyCombo)

inductive Platform where
  | macos
  | linux
  | windows
  deriving DecidableEq

inductive KeyPhase where
  | down
  | up
  deriving DecidableEq

/-- Which of the keys of a chord stay down. -/
inductive HeldKeys where
  | wholeChord
  | modifiersOnly
  deriving DecidableEq

/-! ## Keys -/

def hasCommand (combo : KeyCombo) : Bool := combo.modifiers &&& 1 ≠ 0

def hasShift (combo : KeyCombo) : Bool := combo.modifiers &&& 2 ≠ 0

def hasControl (combo : KeyCombo) : Bool := combo.modifiers &&& 4 ≠ 0

def hasOption (combo : KeyCombo) : Bool := combo.modifiers &&& 8 ≠ 0

def hasSuper (combo : KeyCombo) : Bool := combo.modifiers &&& 16 ≠ 0

/-- One physical key; `command` is a key of macOS, `super` one of the others. -/
inductive HeldKey where
  | command
  | super
  | control
  | shift
  | alt
  | key (usage : UInt8)
  deriving DecidableEq

/-- macOS presses F13 for Print Screen. -/
def pressedUsage (platform : Platform) (usage : UInt8) : UInt8 :=
  if platform = .macos ∧ usage = 0x46 then 0x68 else usage

def HeldKey.ofUsage (platform : Platform) (usage : UInt8) : HeldKey := .key (pressedUsage platform usage)

structure Chord where
  combo : KeyCombo
  keys : HeldKeys
  deriving DecidableEq

/-- The physical keys of a chord, each with whether the chord holds it. -/
def chordKeys (platform : Platform) (chord : Chord) : List (HeldKey × Bool) :=
  let combo := chord.combo
  let macos : Bool := platform = .macos
  [(.command, macos && (hasCommand combo || hasSuper combo)),
    (.control, if macos then hasControl combo else hasCommand combo || hasControl combo),
    (.shift, hasShift combo),
    (.alt, hasOption combo),
    (.super, !macos && hasSuper combo),
    (.ofUsage platform combo.key, chord.keys = .wholeChord)]

def heldKeys (platform : Platform) (chord : Chord) : List HeldKey :=
  ((chordKeys platform chord).filter Prod.snd).map Prod.fst

/-! ## Owners -/

inductive Press where
  /-- The first hold posted its down edge. -/
  | posted
  /-- The key was down outside when the first hold took it. -/
  | alreadyDown
  deriving DecidableEq

structure Owned where
  holds : Nat
  press : Press
  deriving DecidableEq

def Owned.posted (owned : Owned) : Bool := owned.press = .posted

/-- One hold less. -/
def Owned.release (owned : Owned) : Option Owned :=
  if 1 < owned.holds then some { owned with holds := owned.holds - 1 } else none

structure HeldOutput where
  owners : HeldKey → Option Owned := fun _ => none

structure HoldTransition where
  upKeys : List HeldKey
  downKeys : List HeldKey
  tap : Option HeldKey
  deriving DecidableEq

namespace HeldOutput

variable (output : HeldOutput)

def release (key : HeldKey) : HeldOutput :=
  ⟨Function.update output.owners key ((output.owners key).bind Owned.release)⟩

/-- One hold more; a key that nobody owned before the transition is pressed, unless it is already down. -/
def take (before : HeldOutput) (alreadyDown : List HeldKey) (key : HeldKey) : HeldOutput :=
  let press := match before.owners key with
    | some owned => owned.press
    | none => if key ∈ alreadyDown then .alreadyDown else .posted
  ⟨Function.update output.owners key (some (match output.owners key with
    | some owned => { owned with holds := owned.holds + 1 }
    | none => ⟨1, press⟩))⟩

def transitionAround (platform : Platform) (released pressed : Option Chord) (alreadyDown : List HeldKey) :
    HoldTransition × HeldOutput :=
  let tapped := (pressed.filter fun chord => chord.keys = .modifiersOnly).map fun chord =>
    HeldKey.ofUsage platform chord.combo.key
  let released := (released.map (heldKeys platform)).getD []
  let pressed := (pressed.map (heldKeys platform)).getD []
  let after := pressed.foldl (fun out key => out.take output alreadyDown key) (released.foldl release output)
  ({ upKeys := released.filter fun key => (after.owners key).isNone && (output.owners key).any Owned.posted
     downKeys := pressed.filter fun key => (output.owners key).isNone && (after.owners key).any Owned.posted
     tap := tapped.filter fun key => (after.owners key).isNone }, after)

end HeldOutput

namespace HoldTransition

variable (transition : HoldTransition)

/-- The edges of held keys: the releases in reverse, then the presses. -/
def held : List (HeldKey × KeyPhase) :=
  transition.upKeys.reverse.map (fun key => (key, .up)) ++ transition.downKeys.map (fun key => (key, .down))

def tapped : List (HeldKey × KeyPhase) :=
  match transition.tap with
  | some key => [(key, .down), (key, .up)]
  | none => []

/-- Everything that is posted, in order. -/
def posted : List (HeldKey × KeyPhase) := transition.held ++ transition.tapped

variable {transition}

theorem mem_held {key : HeldKey} {phase : KeyPhase} : (key, phase) ∈ transition.held ↔
    (phase = .up ∧ key ∈ transition.upKeys) ∨ (phase = .down ∧ key ∈ transition.downKeys) := by
  simp only [held, List.mem_append, List.mem_map, List.mem_reverse, Prod.mk.injEq]
  constructor
  · rintro (⟨_, h, rfl, rfl⟩ | ⟨_, h, rfl, rfl⟩)
    · exact .inl ⟨rfl, h⟩
    · exact .inr ⟨rfl, h⟩
  · rintro (⟨rfl, h⟩ | ⟨rfl, h⟩)
    · exact .inl ⟨key, h, rfl, rfl⟩
    · exact .inr ⟨key, h, rfl, rfl⟩

end HoldTransition

/-- The modifiers that Windows reads: those that are down, whoever pressed them.  The other platforms read none. -/
def heldModifiersDown (platform : Platform) (output : HeldOutput) (outside : HeldKey → Bool) : List HeldKey :=
  if platform = .windows then
    [HeldKey.control, .shift, .alt, .super].filter fun key => outside key || (output.owners key).any Owned.posted
  else []

/-- One transition under the lock; `outside` are the keys down outside at that moment. -/
def holdTransition (platform : Platform) (output : HeldOutput) (released pressed : Option Chord)
    (outside : HeldKey → Bool) : HoldTransition × HeldOutput :=
  output.transitionAround platform released pressed (heldModifiersDown platform output outside)

/-! ## What a chord holds -/

/-- A chord holds each of its keys once. -/
theorem nodup_heldKeys (platform : Platform) (chord : Chord) : (heldKeys platform chord).Nodup := by
  have hall : ((chordKeys platform chord).map Prod.fst).Nodup := by
    simp [chordKeys, HeldKey.ofUsage]
  exact hall.sublist (List.filter_sublist.map Prod.fst)

/-! ## What a transition does to one key -/

/-- An update of distinct keys, each from its own value, by key. -/
theorem foldl_update (f : HeldKey → Option Owned → Option Owned) (step : HeldOutput → HeldKey → HeldOutput)
    (hstep : ∀ out key, (step out key).owners = Function.update out.owners key (f key (out.owners key))) :
    ∀ (keys : List HeldKey) (out : HeldOutput), keys.Nodup → ∀ key,
      (keys.foldl step out).owners key = if key ∈ keys then f key (out.owners key) else out.owners key
  | [], _, _, _ => by simp
  | k :: keys, out, hnd, key => by
    rw [List.nodup_cons] at hnd
    rw [List.foldl_cons, foldl_update f step hstep keys _ hnd.2, hstep]
    by_cases hk : key = k
    · subst hk
      simp [hnd.1]
    · simp [hk]

/-- The owner of a key after one hold more. -/
def Owned.taken (before : Option Owned) (alreadyDown : Bool) : Option Owned → Owned
  | some owned => { owned with holds := owned.holds + 1 }
  | none => ⟨1, match before with
    | some owned => owned.press
    | none => if alreadyDown then .alreadyDown else .posted⟩

section
variable (platform : Platform) (output : HeldOutput) (released pressed : Option Chord) (alreadyDown : List HeldKey)

/-- Whether a transition releases a key. -/
def releases (key : HeldKey) : Bool := released.any fun chord => key ∈ heldKeys platform chord

theorem keys_getD (chord : Option Chord) : ((chord.map (heldKeys platform)).getD []).Nodup ∧
    ∀ key, key ∈ (chord.map (heldKeys platform)).getD [] ↔ releases platform chord key = true := by
  cases chord with
  | none => simp [releases]
  | some chord => simp [releases, nodup_heldKeys]

/-- **The owner of one key after a transition.** -/
theorem owners_transitionAround (key : HeldKey) :
    (output.transitionAround platform released pressed alreadyDown).2.owners key =
      let between := if releases platform released key then (output.owners key).bind Owned.release else output.owners key
      if releases platform pressed key then some (Owned.taken (output.owners key) (key ∈ alreadyDown) between)
      else between := by
  have hkeys := keys_getD platform
  have htake := foldl_update (fun key owned => some (Owned.taken (output.owners key) (key ∈ alreadyDown) owned))
    (fun out key => out.take output alreadyDown key) (fun out key => by
      unfold HeldOutput.take Owned.taken
      cases out.owners key with
      | some owned => rfl
      | none => cases output.owners key <;> simp)
  have hrelease := foldl_update (fun _ owned => owned.bind Owned.release) HeldOutput.release (fun _ _ => rfl)
  unfold HeldOutput.transitionAround
  dsimp only
  rw [htake _ _ (hkeys pressed).1, hrelease _ _ (hkeys released).1]
  simp only [(hkeys _).2]

/-- What a transition does to the owner of a key. -/
inductive KeyStep (before after : Option Owned) (released pressed alreadyDown : Bool) : Prop where
  | free (hb : before = none) (ha : after = none) (hp : pressed = false)
  | taken (hb : before = none) (hp : pressed = true)
      (ha : after = some ⟨1, if alreadyDown then .alreadyDown else .posted⟩)
  | kept (press : Press) (n m : Nat) (hb : before = some ⟨n, press⟩) (ha : after = some ⟨m, press⟩)
      (hcount : n + pressed.toNat = m + released.toNat) (hm : 0 < m)
  | left (owned : Owned) (hb : before = some owned) (ha : after = none) (hr : released = true) (hp : pressed = false)
      (hlast : owned.holds = 1)

/-- **A key stays free, is taken, keeps who pressed it, or is left by its last owner.** -/
theorem keyStep_transitionAround (key : HeldKey) (h : ∀ owned, output.owners key = some owned → 0 < owned.holds) :
    KeyStep (output.owners key) ((output.transitionAround platform released pressed alreadyDown).2.owners key)
      (releases platform released key) (releases platform pressed key) (key ∈ alreadyDown) := by
  rw [owners_transitionAround]
  cases hb : output.owners key with
  | none =>
    cases hp : releases platform pressed key with
    | true => exact .taken rfl rfl (by simp [Owned.taken])
    | false => exact .free rfl (by simp) rfl
  | some owned =>
    obtain ⟨n, press⟩ := owned
    have hn : 0 < n := h _ hb
    cases hr : releases platform released key with
    | false =>
      cases hp : releases platform pressed key with
      | false => exact .kept press n n rfl rfl rfl hn
      | true => exact .kept press n (n + 1) rfl (by simp [Owned.taken]) rfl n.succ_pos
    | true =>
      by_cases hone : 1 < n
      · have hrelease : Owned.release ⟨n, press⟩ = some ⟨n - 1, press⟩ := if_pos hone
        cases hp : releases platform pressed key with
        | false => exact .kept press n (n - 1) rfl (by simp [hrelease]) (by simp; omega) (by omega)
        | true => exact .kept press n n rfl (by simp [hrelease, Owned.taken]; omega) rfl hn
      · have hrelease : Owned.release ⟨n, press⟩ = none := if_neg hone
        obtain rfl : n = 1 := by omega
        cases hp : releases platform pressed key with
        | false => exact .left _ rfl (by simp [hrelease]) rfl rfl rfl
        | true => exact .kept press 1 1 rfl (by simp [hrelease, Owned.taken]) rfl Nat.one_pos

theorem mem_upKeys (key : HeldKey) :
    key ∈ (output.transitionAround platform released pressed alreadyDown).1.upKeys ↔
      releases platform released key = true ∧
        (output.transitionAround platform released pressed alreadyDown).2.owners key = none ∧
        (output.owners key).any Owned.posted = true := by
  unfold HeldOutput.transitionAround
  simp only [List.mem_filter, (keys_getD platform released).2, Bool.and_eq_true, Option.isNone_iff_eq_none]

theorem mem_downKeys (key : HeldKey) :
    key ∈ (output.transitionAround platform released pressed alreadyDown).1.downKeys ↔
      releases platform pressed key = true ∧ output.owners key = none ∧
        ((output.transitionAround platform released pressed alreadyDown).2.owners key).any Owned.posted = true := by
  unfold HeldOutput.transitionAround
  simp only [List.mem_filter, (keys_getD platform pressed).2, Bool.and_eq_true, Option.isNone_iff_eq_none]

theorem tap_free (key : HeldKey)
    (h : (output.transitionAround platform released pressed alreadyDown).1.tap = some key) :
    (output.transitionAround platform released pressed alreadyDown).2.owners key = none := by
  unfold HeldOutput.transitionAround at h ⊢
  exact Option.isNone_iff_eq_none.1 (Option.filter_eq_some_iff.1 h).2

/-- No key has two edges of held keys in one transition. -/
theorem nodup_held :
    ((output.transitionAround platform released pressed alreadyDown).1.held.map Prod.fst).Nodup := by
  have hup : (output.transitionAround platform released pressed alreadyDown).1.upKeys.Nodup :=
    (keys_getD platform released).1.filter _
  have hdown : (output.transitionAround platform released pressed alreadyDown).1.downKeys.Nodup :=
    (keys_getD platform pressed).1.filter _
  unfold HoldTransition.held
  rw [List.map_append, List.map_map, List.map_map]
  refine List.Nodup.append ?_ ?_ ?_
  · simpa [Function.comp_def] using hup
  · simpa [Function.comp_def] using hdown
  · intro key hu hd
    have hu : key ∈ (output.transitionAround platform released pressed alreadyDown).1.upKeys := by
      simpa [Function.comp_def] using hu
    have hd : key ∈ (output.transitionAround platform released pressed alreadyDown).1.downKeys := by
      simpa [Function.comp_def] using hd
    have hposted := ((mem_upKeys platform output released pressed alreadyDown key).1 hu).2.2
    rw [((mem_downKeys platform output released pressed alreadyDown key).1 hd).2.1] at hposted
    cases hposted

end

end Inject
end OpenLogi
