import OpenLogi.Lib.Lifecycle
/-!
# Framing — one stream, one lifecycle after another

A stream of frames, each the start, the middle or the stop of something and each of a kind: it is cut into whole
lifecycles of one kind each and, at its end, one that has only begun.  `next` is the same as a step, so that a stream
is followed frame by frame.
-/
namespace OpenLogi
namespace Lib
namespace Framing

variable {α κ : Type} (mark : α → Mark) (kind : α → κ)

/-- A whole lifecycle, all of one kind. -/
def Gesture (l : List α) : Prop := Whole (l.map mark) ∧ ∃ k, ∀ a ∈ l, kind a = k

/-- A lifecycle of kind `k` that has begun and not stopped. -/
def Begun (k : κ) (l : List α) : Prop :=
  (∃ n, l.map mark = .start :: List.replicate n .mid) ∧ ∀ a ∈ l, kind a = k

/-- Whole gestures, and then one that has begun where `opened` names its kind. -/
def Cut (opened : Option κ) (l : List α) : Prop :=
  ∃ (gestures : List (List α)) (rest : List α), l = gestures.flatten ++ rest ∧
    (∀ g ∈ gestures, Gesture mark kind g) ∧ match opened with
      | none => rest = []
      | some k => Begun mark kind k rest

variable {mark kind}

variable {l : List α}

theorem begun_snoc {k : κ} {a : α} (h : Begun mark kind k l) (hm : mark a = .mid) (hk : kind a = k) :
    Begun mark kind k (l ++ [a]) := by
  obtain ⟨⟨n, hn⟩, hkind⟩ := h
  refine ⟨⟨n + 1, ?_⟩, fun b hb => ?_⟩
  · rw [List.map_append, hn, List.replicate_succ', List.cons_append, List.map_singleton, hm]
  · rcases List.mem_append.1 hb with hb | hb
    · exact hkind b hb
    · rw [List.mem_singleton.1 hb, hk]

theorem gesture_snoc {k : κ} {a : α} (h : Begun mark kind k l) (hm : mark a = .stop) (hk : kind a = k) :
    Gesture mark kind (l ++ [a]) := by
  obtain ⟨⟨n, hn⟩, hkind⟩ := h
  refine ⟨⟨n, ?_⟩, k, fun b hb => ?_⟩
  · rw [List.map_append, hn, List.cons_append, List.map_singleton, hm]
  · rcases List.mem_append.1 hb with hb | hb
    · exact hkind b hb
    · rw [List.mem_singleton.1 hb, hk]

variable [DecidableEq κ]

variable (mark kind) in
/-- The next frame: a start between two gestures, anything else of the kind of the open one. -/
def next (opened : Option κ) (a : α) : Option (Option κ) :=
  match opened, mark a with
  | none, .start => some (some (kind a))
  | some k, .mid => if kind a = k then some (some k) else none
  | some k, .stop => if kind a = k then some none else none
  | none, .mid | none, .stop | some _, .start => none

/-- **A frame that the stream may go on with** keeps it cut. -/
theorem cut_snoc {opened opened' : Option κ} {a : α} (h : Cut mark kind opened l)
    (hn : next mark kind opened a = some opened') : Cut mark kind opened' (l ++ [a]) := by
  obtain ⟨gestures, rest, rfl, hg, hr⟩ := h
  unfold next at hn
  split at hn
  · rename_i hm
    cases hn
    rw [show rest = [] from hr]
    refine ⟨gestures, [a], by simp, hg, ⟨0, by simp [hm]⟩, by simp⟩
  · rename_i k hm
    split at hn
    · rename_i hk
      cases hn
      exact ⟨gestures, rest ++ [a], by simp, hg, begun_snoc hr hm hk⟩
    · cases hn
  · rename_i k hm
    split at hn
    · rename_i hk
      cases hn
      refine ⟨gestures ++ [rest ++ [a]], [], by simp, fun g hmem => ?_, rfl⟩
      rcases List.mem_append.1 hmem with hmem | hmem
      · exact hg g hmem
      · rw [List.mem_singleton.1 hmem]
        exact gesture_snoc hr hm hk
    · cases hn
  · cases hn
  · cases hn
  · cases hn

theorem cut_of_run {opened opened' : Option κ} : ∀ {l m : List α}, Cut mark kind opened l →
    run (next mark kind) opened m = some opened' → Cut mark kind opened' (l ++ m)
  | l, [], h, hr => by
    cases hr
    rwa [List.append_nil]
  | l, a :: m, h, hr => by
    obtain ⟨t, ht, hr⟩ := run_cons hr
    rw [List.append_cons]
    exact cut_of_run (cut_snoc h ht) hr

theorem run_mids {k : κ} : ∀ {l : List α} {n : Nat}, l.map mark = List.replicate n .mid → (∀ a ∈ l, kind a = k) →
    run (next mark kind) (some k) l = some (some k)
  | [], _, _, _ => rfl
  | a :: l, 0, h, _ => by cases h
  | a :: l, n + 1, h, hk => by
    obtain ⟨hm, hl⟩ := List.cons.inj h
    have hnext : next mark kind (some k) a = some (some k) := by
      simp only [next, hm, hk a List.mem_cons_self, if_true]
    rw [run_of_step hnext]
    exact run_mids hl fun b hb => hk b (List.mem_cons_of_mem _ hb)

theorem run_begun {k : κ} (h : Begun mark kind k l) : run (next mark kind) none l = some (some k) := by
  obtain ⟨⟨n, hn⟩, hk⟩ := h
  cases l with
  | nil => cases hn
  | cons a l =>
    obtain ⟨hm, hl⟩ := List.cons.inj hn
    have hnext : next mark kind none a = some (some k) := by simp only [next, hm, hk a List.mem_cons_self]
    rw [run_of_step hnext]
    exact run_mids hl fun b hb => hk b (List.mem_cons_of_mem _ hb)

theorem run_gesture (h : Gesture mark kind l) : run (next mark kind) none l = some none := by
  obtain ⟨⟨n, hn⟩, k, hk⟩ := h
  rw [← List.cons_append] at hn
  obtain ⟨begun, stop, rfl, hb, hs⟩ := List.map_eq_append_iff.1 hn
  obtain ⟨z, rest, rfl, hz, hnil⟩ := List.map_eq_cons_iff.1 hs
  rw [List.map_eq_nil_iff.1 hnil] at hk ⊢
  have hkz : kind z = k := hk z (by simp)
  have hbegun : Begun mark kind k begun := ⟨⟨n, hb⟩, fun a ha => hk a (List.mem_append_left _ ha)⟩
  have hnext : next mark kind (some k) z = some none := by simp only [next, hz, hkz, if_true]
  rw [run_append, run_begun hbegun, Option.bind_some, run_of_step hnext, run_nil]

theorem run_gestures : ∀ {gestures : List (List α)}, (∀ g ∈ gestures, Gesture mark kind g) →
    run (next mark kind) none gestures.flatten = some none
  | [], _ => rfl
  | g :: gestures, h => by
    rw [List.flatten_cons, run_append, run_gesture (h g List.mem_cons_self), Option.bind_some]
    exact run_gestures fun g' hg => h g' (List.mem_cons_of_mem _ hg)

/-- **A stream is cut exactly when it can be followed frame by frame.** -/
theorem cut_iff_run {opened : Option κ} :
    Cut mark kind opened l ↔ run (next mark kind) none l = some opened := by
  constructor
  · rintro ⟨gestures, rest, rfl, hg, hr⟩
    rw [run_append, run_gestures hg, Option.bind_some]
    cases opened with
    | none => rw [show rest = [] from hr, run_nil]
    | some k => exact run_begun hr
  · intro h
    exact cut_of_run (l := []) ⟨[], [], rfl, by simp, rfl⟩ h

end Framing
end Lib
end OpenLogi
