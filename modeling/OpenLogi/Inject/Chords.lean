import OpenLogi.Inject.Held
import OpenLogi.Lib.Edges
import OpenLogi.Lib.Run
import OpenLogi.Lib.Table
/-!
# Chords — held chords are balanced

Any number of chords, held, replaced and dropped in any order.  Every edge that is posted is recorded, and for every key
whether it was down outside when a chord first took it.
-/
namespace OpenLogi
namespace Inject

open Lib (Alternates Flips Map flips_append levels levels_append Along EveryState)

/-! ## Runs -/

/-- `outside` are the keys down outside at the transition. -/
inductive Event where
  | pressHold (id : Nat) (chord : Chord) (outside : HeldKey → Bool)
  | replace (id : Nat) (chord : Chord) (outside : HeldKey → Bool)
  | drop (id : Nat) (outside : HeldKey → Bool)

/-- `posted` and `foundDown` are kept for the statements only. -/
structure Sys where
  output : HeldOutput := {}
  chords : Map Nat Chord := .empty
  posted : List (HeldKey × KeyPhase) := []
  foundDown : HeldKey → Bool := fun _ => false

namespace Sys

variable (platform : Platform) (s : Sys)

/-- How many chords hold a key. -/
def holds (key : HeldKey) : Nat := s.chords.rows.countP fun row => key ∈ heldKeys platform row.2

def owns (key : HeldKey) : Bool := 0 < s.holds platform key

/-- The state after a transition to another set of chords. -/
def transition (released pressed : Option Chord) (chords : Map Nat Chord) (outside : HeldKey → Bool) : Sys :=
  let (edges, output) := holdTransition platform s.output released pressed outside
  let s' : Sys := { s with output := output, chords := chords, posted := s.posted ++ edges.posted }
  { s' with foundDown := fun key =>
      s'.owns platform key && if s.owns platform key then s.foundDown key else outside key }

/-- What an event releases, what it holds, the chords after it, and the keys down outside; none where the chord it names
is not one that is held, or a new one is. -/
def change : Event → Option (Option Chord × Option Chord × Map Nat Chord × (HeldKey → Bool))
  | .pressHold id chord outside =>
    if (s.chords.get id).isSome then none else some (none, some chord, s.chords.put id chord, outside)
  | .replace id chord outside =>
    (s.chords.get id).map fun old => (some old, some chord, s.chords.put id chord, outside)
  | .drop id outside => (s.chords.get id).map fun old => (some old, none, s.chords.erase id, outside)

def step (e : Event) : Option Sys :=
  (s.change e).map fun (released, pressed, chords, outside) => s.transition platform released pressed chords outside

/-- The transition that an event makes. -/
def edges (e : Event) : Option HoldTransition :=
  (s.change e).map fun (released, pressed, _, outside) =>
    (holdTransition platform s.output released pressed outside).1

end Sys

/-! ## What is claimed -/

def isDown (edge : HeldKey × KeyPhase) : Bool := edge.2 = .down

/-- The edges of every key go down and up in turn, and once no chord is left every key is up. -/
structure Balanced (s : Sys) : Prop where
  alternate : ∀ key, Alternates false ((s.posted.filter fun edge => edge.1 = key).map isDown)
  released : s.chords.rows = [] → ∀ key, levels Prod.fst isDown (fun _ => false) s.posted key = false

/-- What a transition posts leaves alone what the chords own: it lifts and taps no key of a chord, and `exempt` keys that
were down outside when their first owner took them get no edge until no chord owns them. -/
structure Careful (platform : Platform) (exempt : HeldKey → Bool) (s : Sys) (e : Event) (s' : Sys)
    (edges : HoldTransition) : Prop where
  lifts : ∀ key, (key, .up) ∈ edges.held → s'.owns platform key = false
  taps : ∀ key, edges.tap = some key → s'.owns platform key = false
  spares : ∀ key, exempt key = true → s.foundDown key = true ∨ s'.foundDown key = true → ∀ phase, (key, phase) ∉ edges.held

/-- Every transition of a run is careful. -/
def EveryCareful (platform : Platform) (exempt : HeldKey → Bool) : List Event → Prop :=
  Along (Sys.step platform) (fun s e => ∀ s' edges, s.step platform e = some s' → s.edges platform e = some edges →
    Careful platform exempt s e s' edges) {}

/-! ## Counting -/

section
variable {platform : Platform} {s : Sys}

theorem countP_put {m : Map Nat Chord} {id : Nat} {chord : Chord} (p : Nat × Chord → Bool) :
    (m.put id chord).rows.countP p = (Lib.Table.erase m id).rows.countP p + (p (id, chord)).toNat := by
  unfold Lib.Map.put Lib.Table.insert
  rw [List.countP_cons]
  cases p (id, chord) <;> simp

theorem countP_erase {m : Map Nat Chord} {id : Nat} {old : Chord} (h : m.get id = some old) (p : Nat × Chord → Bool) :
    m.rows.countP p = (Lib.Table.erase m id).rows.countP p + (p (id, old)).toNat := by
  have hrow : Lib.Table.get? m id = some (id, old) := by
    obtain ⟨⟨id', old'⟩, hp, rfl⟩ := Option.map_eq_some_iff.1 h
    obtain ⟨_, rfl⟩ := Lib.Table.mem_of_get? hp
    exact hp
  rw [(Lib.Table.perm_erase hrow).countP_eq, List.countP_cons]
  cases p (id, old) <;> simp

/-- The other chords hold a key as often before an event as after it. -/
theorem holds_change (platform : Platform) {e : Event} {released pressed : Option Chord} {chords : Map Nat Chord}
    {outside : HeldKey → Bool} (h : s.change e = some (released, pressed, chords, outside)) (key : HeldKey) :
    ∃ others, s.holds platform key = others + (releases platform released key).toNat ∧
      chords.rows.countP (fun row => key ∈ heldKeys platform row.2) =
        others + (releases platform pressed key).toNat := by
  unfold Sys.holds
  cases e with
  | pressHold id chord outside' =>
    by_cases hfresh : (s.chords.get id).isSome = true
    · simp [Sys.change, hfresh] at h
    · obtain ⟨rfl, rfl, rfl, rfl⟩ : none = released ∧ some chord = pressed ∧ _ ∧ _ := by
        simpa [Sys.change, hfresh] using h
      have hnone : Lib.Table.get? s.chords id = none := by simpa [Lib.Map.get] using hfresh
      refine ⟨s.chords.rows.countP fun row => key ∈ heldKeys platform row.2, by simp [releases], ?_⟩
      rw [countP_put, Lib.Table.erase_of_get? hnone]
      simp [releases]
  | replace id chord outside' =>
    obtain ⟨old, hold, heq⟩ := Option.map_eq_some_iff.1 h
    obtain ⟨rfl, rfl, rfl, rfl⟩ : some old = released ∧ some chord = pressed ∧ _ ∧ _ := by simpa using heq
    refine ⟨_, countP_erase hold _, ?_⟩
    rw [countP_put]
    rfl
  | drop id outside' =>
    obtain ⟨old, hold, heq⟩ := Option.map_eq_some_iff.1 h
    obtain ⟨rfl, rfl, rfl, rfl⟩ : some old = released ∧ none = pressed ∧ _ ∧ _ := by simpa using heq
    exact ⟨_, countP_erase hold _, by simp [releases]⟩

end

/-! ## The invariant -/

/-- The keys that a hold finds down: the modifiers, on Windows. -/
def noticed (platform : Platform) (key : HeldKey) : Bool :=
  platform = .windows && [HeldKey.control, .shift, .alt, .super].contains key

/-- A key is counted as often as it is held, and what was posted left it as its owner has it. -/
structure Inv (platform : Platform) (s : Sys) : Prop where
  owned : ∀ key, (s.output.owners key).map Owned.holds =
    if s.holds platform key = 0 then none else some (s.holds platform key)
  flips : Flips Prod.fst isDown (fun _ => false) s.posted
  level : ∀ key, levels Prod.fst isDown (fun _ => false) s.posted key = (s.output.owners key).any Owned.posted
  found : ∀ key, noticed platform key = true → s.foundDown key = true →
    (s.output.owners key).map Owned.press = some .alreadyDown

theorem inv_start (platform : Platform) : Inv platform {} where
  owned _ := rfl
  flips := trivial
  level _ := rfl
  found _ _ h := by cases h

section
variable {platform : Platform} {s : Sys}

theorem Inv.pos (h : Inv platform s) {key : HeldKey} {owned : Owned} (ho : s.output.owners key = some owned) :
    owned.holds = s.holds platform key ∧ 0 < owned.holds := by
  have hkey := h.owned key
  rw [ho, Option.map_some] at hkey
  split at hkey
  · cases hkey
  · have heq := Option.some.inj hkey
    exact ⟨heq, by omega⟩

theorem Inv.owns_iff (h : Inv platform s) (key : HeldKey) :
    s.owns platform key = true ↔ (s.output.owners key).isSome = true := by
  have hkey := congrArg Option.isSome (h.owned key)
  rw [Option.isSome_map] at hkey
  rw [hkey]
  unfold Sys.owns
  by_cases hz : s.holds platform key = 0
  · simp [hz]
  · simp [hz, Nat.pos_iff_ne_zero]

/-- The level that the edges of a transition leave a key at, and that they are edges. -/
theorem flips_transition (platform : Platform) {output : HeldOutput} (released pressed : Option Chord)
    (outside : HeldKey → Bool)
    (hpos : ∀ key owned, output.owners key = some owned → 0 < owned.holds) {f : HeldKey → Bool}
    (hf : ∀ key, f key = (output.owners key).any Owned.posted) :
    Flips Prod.fst isDown f (holdTransition platform output released pressed outside).1.posted ∧
      ∀ key, levels Prod.fst isDown f (holdTransition platform output released pressed outside).1.posted key =
        ((holdTransition platform output released pressed outside).2.owners key).any Owned.posted := by
  unfold holdTransition
  generalize heldModifiersDown platform output outside = down
  have hnd := nodup_held platform output released pressed down
  have hup := mem_upKeys platform output released pressed down
  have hdown := mem_downKeys platform output released pressed down
  have htap := tap_free platform output released pressed down
  have hkey := fun key => keyStep_transitionAround platform output released pressed down key (hpos key)
  generalize output.transitionAround platform released pressed down = t at hnd hup hdown htap hkey ⊢
  have hheld : Flips Prod.fst isDown f t.1.held := by
    refine Lib.flips_of_nodup _ _ hnd ?_
    rintro ⟨key, phase⟩ hin
    rw [hf]
    rcases HoldTransition.mem_held.1 hin with ⟨rfl, hu⟩ | ⟨rfl, hd⟩
    · rw [((hup key).1 hu).2.2]
      rfl
    · rw [((hdown key).1 hd).2.1]
      rfl
  have hlevel : ∀ key, levels Prod.fst isDown f t.1.held key = (t.2.owners key).any Owned.posted := by
    intro key
    by_cases hin : key ∈ t.1.held.map Prod.fst
    · obtain ⟨⟨_, phase⟩, hedge, rfl⟩ := List.mem_map.1 hin
      rw [Lib.levels_of_mem _ _ _ hnd hedge]
      rcases HoldTransition.mem_held.1 hedge with ⟨rfl, hu⟩ | ⟨rfl, hd⟩
      · rw [((hup _).1 hu).2.1]
        rfl
      · rw [((hdown _).1 hd).2.2]
        rfl
    · have hnone : key ∉ t.1.upKeys ∧ key ∉ t.1.downKeys :=
        ⟨fun hu => hin (List.mem_map_of_mem (HoldTransition.mem_held.2 (.inl ⟨rfl, hu⟩))),
          fun hd => hin (List.mem_map_of_mem (HoldTransition.mem_held.2 (.inr ⟨rfl, hd⟩)))⟩
      rw [Lib.levels_of_not_mem _ _ _ hin, hf]
      cases hkey key with
      | free hb ha _ => rw [hb, ha]
      | kept press n m hb ha _ _ => rw [hb, ha]; rfl
      | taken hb hp ha =>
        rw [hb]
        refine (Bool.eq_false_iff.2 fun hposted => ?_).symm
        exact hnone.2 ((hdown key).2 ⟨hp, hb, hposted⟩)
      | left owned hb ha hr _ _ =>
        rw [ha]
        refine Bool.eq_false_iff.2 fun hposted => ?_
        exact hnone.1 ((hup key).2 ⟨hr, ha, hposted⟩)
  unfold HoldTransition.posted
  rw [flips_append]
  simp only [levels_append, hheld, true_and]
  unfold HoldTransition.tapped
  cases htapped : t.1.tap with
  | none => exact ⟨trivial, hlevel⟩
  | some tapped =>
    have hup : levels Prod.fst isDown f t.1.held tapped = false := by rw [hlevel, htap tapped htapped]; rfl
    refine ⟨⟨by simp [isDown, hup], by simp [isDown], trivial⟩, fun key => ?_⟩
    rw [← hlevel]
    by_cases hk : key = tapped
    · subst hk
      simp [isDown, hup]
    · simp [isDown, hk]

section
variable {e : Event} {released pressed : Option Chord} {chords : Map Nat Chord} {outside : HeldKey → Bool}

theorem Inv.keyStep (h : Inv platform s) (released pressed : Option Chord) (chords : Map Nat Chord)
    (outside : HeldKey → Bool) (key : HeldKey) :
    KeyStep (s.output.owners key) ((s.transition platform released pressed chords outside).output.owners key)
      (releases platform released key) (releases platform pressed key)
      (key ∈ heldModifiersDown platform s.output outside) :=
  keyStep_transitionAround platform s.output released pressed (heldModifiersDown platform s.output outside) key
    fun _ ho => (h.pos ho).2

/-- The owners are counted by the chords that are left. -/
theorem owned_transition (h : Inv platform s) (he : s.change e = some (released, pressed, chords, outside))
    (key : HeldKey) :
    ((s.transition platform released pressed chords outside).output.owners key).map Owned.holds =
      if (s.transition platform released pressed chords outside).holds platform key = 0 then none
      else some ((s.transition platform released pressed chords outside).holds platform key) := by
  obtain ⟨others, hbefore, hafter⟩ := holds_change platform he key
  have hafter : (s.transition platform released pressed chords outside).holds platform key =
      others + (releases platform pressed key).toNat := hafter
  have hfree : s.output.owners key = none → others + (releases platform released key).toNat = 0 := by
    intro hb
    have hkeep := h.owned key
    rw [hb, hbefore] at hkeep
    by_contra hne
    rw [if_neg hne] at hkeep
    cases hkeep
  rw [hafter]
  cases h.keyStep released pressed chords outside key with
  | free hb ha hp =>
    have hzero := hfree hb
    rw [ha, hp]
    simp; omega
  | taken hb hp ha =>
    have hzero := hfree hb
    rw [ha, hp]
    simp; omega
  | kept press n m hb ha hcount hm =>
    have hn : n = others + (releases platform released key).toNat := (h.pos hb).1.trans hbefore
    have hm' : m = others + (releases platform pressed key).toNat := by omega
    rw [ha, ← hm', if_neg (by omega)]
    rfl
  | left owned hb ha hr hp hlast =>
    have hn := (h.pos hb).1
    rw [hbefore, hlast, hr] at hn
    have hn : others = 0 := by simpa using hn.symm
    rw [ha, hp, hn]
    rfl

/-- A key that has no owner is one that no chord holds. -/
theorem free_transition (h : Inv platform s) (he : s.change e = some (released, pressed, chords, outside))
    {key : HeldKey} (hnone : (s.transition platform released pressed chords outside).output.owners key = none) :
    (s.transition platform released pressed chords outside).owns platform key = false := by
  have hcount := owned_transition h he key
  rw [hnone] at hcount
  have hzero : (s.transition platform released pressed chords outside).holds platform key = 0 := by
    by_contra hne
    rw [if_neg hne] at hcount
    cases hcount
  simp [Sys.owns, hzero]

theorem foundDown_transition (key : HeldKey) : (s.transition platform released pressed chords outside).foundDown key =
    ((s.transition platform released pressed chords outside).owns platform key &&
      if s.owns platform key then s.foundDown key else outside key) := rfl

/-- What was found down keeps its mark, and what is found down gets it. -/
theorem found_transition (h : Inv platform s) (he : s.change e = some (released, pressed, chords, outside))
    {key : HeldKey} (hnoticed : noticed platform key = true)
    (hdown : (s.transition platform released pressed chords outside).foundDown key = true) :
    ((s.transition platform released pressed chords outside).output.owners key).map Owned.press =
      some .alreadyDown := by
  rw [foundDown_transition, Bool.and_eq_true] at hdown
  obtain ⟨howns, hdown⟩ := hdown
  cases h.keyStep released pressed chords outside key with
  | free hb ha _ =>
    rw [free_transition h he ha] at howns
    cases howns
  | left owned hb ha _ _ _ =>
    rw [free_transition h he ha] at howns
    cases howns
  | kept press n m hb ha _ _ =>
    have howned : s.owns platform key = true := (h.owns_iff key).2 (by rw [hb]; rfl)
    rw [if_pos howned] at hdown
    have hmark := h.found key hnoticed hdown
    rw [hb] at hmark
    rw [ha]
    exact hmark
  | taken hb hp ha =>
    have hfresh : ¬s.owns platform key = true := fun howned => by
      have hsome := (h.owns_iff key).1 howned
      rw [hb] at hsome
      cases hsome
    rw [if_neg hfresh] at hdown
    simp only [noticed, Bool.and_eq_true, decide_eq_true_eq, List.contains_eq_mem] at hnoticed
    have hread : key ∈ heldModifiersDown platform s.output outside := by
      unfold heldModifiersDown
      rw [if_pos hnoticed.1, List.mem_filter, hdown]
      exact ⟨hnoticed.2, rfl⟩
    rw [ha]
    simp [hread]

theorem not_posted {owner : Option Owned} (h : owner.map Owned.press = some .alreadyDown) :
    owner.any Owned.posted = false := by
  cases owner with
  | none => rfl
  | some owned =>
    have hpress : owned.press = .alreadyDown := by simpa using h
    simp [Owned.posted, hpress]

/-- **A transition keeps the invariant.** -/
theorem inv_transition (h : Inv platform s) (he : s.change e = some (released, pressed, chords, outside)) :
    Inv platform (s.transition platform released pressed chords outside) := by
  obtain ⟨hflips, hlevel⟩ := flips_transition platform released pressed outside (fun _ _ ho => (h.pos ho).2) h.level
  refine ⟨owned_transition h he, ?_, fun key => ?_, fun key => found_transition h he⟩
  · exact (flips_append _ _ _).2 ⟨h.flips, hflips⟩
  · exact (congrFun (levels_append _ _ _) key).trans (hlevel key)

/-- **A transition is careful.** -/
theorem careful_transition (h : Inv platform s) (he : s.change e = some (released, pressed, chords, outside)) :
    Careful platform (noticed platform) s e (s.transition platform released pressed chords outside)
      (holdTransition platform s.output released pressed outside).1 := by
  refine ⟨?_, ?_, ?_⟩
  · intro key hin
    rcases HoldTransition.mem_held.1 hin with ⟨_, hup⟩ | ⟨heq, _⟩
    · exact free_transition h he ((mem_upKeys _ _ _ _ _ _).1 hup).2.1
    · cases heq
  · intro key htap
    exact free_transition h he (tap_free _ _ _ _ _ _ htap)
  · intro key hnoticed hdown phase hin
    -- the key is marked, from before or from now on
    have hmark : (s.output.owners key).map Owned.press = some .alreadyDown ∨ (s.output.owners key = none ∧
        ((s.transition platform released pressed chords outside).output.owners key).map Owned.press =
          some .alreadyDown) := by
      rcases hdown with hdown | hdown
      · exact .inl (h.found key hnoticed hdown)
      · cases hb : s.output.owners key with
        | none => exact .inr ⟨rfl, found_transition h he hnoticed hdown⟩
        | some owned =>
          have howned : s.owns platform key = true := (h.owns_iff key).2 (by rw [hb]; rfl)
          rw [foundDown_transition, if_pos howned, Bool.and_eq_true] at hdown
          exact .inl (hb ▸ h.found key hnoticed hdown.2)
    rcases HoldTransition.mem_held.1 hin with ⟨_, hup⟩ | ⟨_, hdownKey⟩
    · have hposted := ((mem_upKeys _ _ _ _ _ _).1 hup).2.2
      rcases hmark with hmark | ⟨hb, _⟩
      · rw [not_posted hmark] at hposted
        cases hposted
      · rw [hb] at hposted
        cases hposted
    · obtain ⟨_, hb, hposted⟩ := (mem_downKeys _ _ _ _ _ _).1 hdownKey
      rcases hmark with hmark | ⟨_, hmark⟩
      · rw [hb] at hmark
        cases hmark
      · exact absurd hposted (Bool.eq_false_iff.1 (not_posted hmark))

end

theorem inv_step (h : Inv platform s) {e : Event} {s' : Sys} (hs : s.step platform e = some s') :
    Inv platform s' ∧ ∀ edges, s.edges platform e = some edges → Careful platform (noticed platform) s e s' edges := by
  obtain ⟨⟨released, pressed, chords, outside⟩, he, rfl⟩ := Option.map_eq_some_iff.1 hs
  refine ⟨inv_transition h he, fun edges hedges => ?_⟩
  rw [Sys.edges, he] at hedges
  cases hedges
  exact careful_transition h he

theorem balanced_of_inv (h : Inv platform s) : Balanced s where
  alternate := (Lib.flips_iff_alternates _ _).1 h.flips
  released hchords key := by
    have howned := h.owned key
    rw [Sys.holds, hchords] at howned
    rw [h.level key]
    cases ho : s.output.owners key with
    | none => rfl
    | some owned =>
      rw [ho] at howned
      cases howned

end

/-- **In every run the edges of every key go down and up in turn, every key is up once the last chord is dropped, and no
edge touches a key that a chord owns; on Windows a modifier that a hold finds down is left alone.** -/
theorem balanced_run (platform : Platform) (events : List Event) :
    EveryState (Sys.step platform) Balanced {} events ∧ EveryCareful platform (noticed platform) events := by
  constructor
  · intro pre s' _ hr
    exact balanced_of_inv (Lib.run_inv (Inv platform) (fun s e s' h hs => (inv_step h hs).1) pre {} s'
      (inv_start platform) hr)
  · refine Lib.along_of_inv (Inv platform) ?_ ?_ (inv_start platform)
    · intro s e h s' edges hs hedges
      exact (inv_step h hs).2 edges hedges
    · exact fun s e s' h hs => (inv_step h hs).1

/-- Ctrl+C, held as a whole. -/
def controlC : Chord := ⟨⟨4, 0x06⟩, .wholeChord⟩

/-- Linux reads nothing: a Control that the user holds is pressed by the chord, and would be lifted with it. -/
theorem linux_presses_what_is_down :
    ¬∀ (platform : Platform) (events : List Event),
      EveryState (Sys.step platform) Balanced {} events ∧ EveryCareful platform (fun _ => true) events := by
  intro h
  have hcareful := ((h .linux [.pressHold 0 controlC fun key => key = .control]).2.1 _ _ rfl rfl).spares
  exact hcareful .control rfl (.inr (by decide +kernel)) .down (by decide +kernel)

end Inject
end OpenLogi
