import Mathlib.Data.List.Basic
/-!
# Run — machines that take events and may refuse one

A system of several parties is a partial step `σ → ε → Option σ`: an event is one atomic action of one party, and an
order of events is an interleaving.  `run` folds a list of events, `Along` is a condition on every event at the state
it is taken in, and `EveryState` a condition on every state reached.
-/
namespace OpenLogi
namespace Lib

variable {σ ε : Type}

/-- The state a list of events leads to, or `none` once an event is refused. -/
def run (step : σ → ε → Option σ) : σ → List ε → Option σ
  | s, [] => some s
  | s, e :: es => (step s e).bind fun s' => run step s' es

/-- Every event taken meets `G` at the state it is taken in. -/
def Along (step : σ → ε → Option σ) (G : σ → ε → Prop) : σ → List ε → Prop
  | _, [] => True
  | s, e :: es => G s e ∧ ∀ s', step s e = some s' → Along step G s' es

instance decidableAlong (step : σ → ε → Option σ) (G : σ → ε → Prop) [∀ s e, Decidable (G s e)] :
    ∀ (es : List ε) (s : σ), Decidable (Along step G s es)
  | [], _ => isTrue trivial
  | e :: es, s =>
    match hs : step s e with
    | none => decidable_of_iff (G s e) ⟨fun h => ⟨h, fun _ ht => by rw [hs] at ht; cases ht⟩, And.left⟩
    | some t =>
      haveI := decidableAlong step G es t
      decidable_of_iff (G s e ∧ Along step G t es)
        ⟨fun h => ⟨h.1, fun _ ht => by rw [hs] at ht; cases ht; exact h.2⟩, fun h => ⟨h.1, h.2 t hs⟩⟩

/-- Every state reached by a part of the run meets `P`. -/
def EveryState (step : σ → ε → Option σ) (P : σ → Prop) (s : σ) (es : List ε) : Prop :=
  ∀ pre s', pre <+: es → run step s pre = some s' → P s'

@[simp] theorem run_nil (step : σ → ε → Option σ) (s : σ) : run step s [] = some s := rfl

variable {step : σ → ε → Option σ} {s : σ} {es : List ε} {G : σ → ε → Prop} {P : σ → Prop}

theorem run_cons {s' : σ} {e : ε} (h : run step s (e :: es) = some s') :
    ∃ t, step s e = some t ∧ run step t es = some s' :=
  Option.bind_eq_some_iff.1 h

theorem run_of_step {t : σ} {e : ε} (h : step s e = some t) (es : List ε) :
    run step s (e :: es) = run step t es := by
  rw [run, h, Option.bind_some]

theorem run_append (step : σ → ε → Option σ) : ∀ (xs ys : List ε) (s : σ),
    run step s (xs ++ ys) = (run step s xs).bind fun t => run step t ys
  | [], ys, s => rfl
  | x :: xs, ys, s => by
    rw [List.cons_append, run, run, Option.bind_assoc]
    congr 1
    funext t
    exact run_append step xs ys t

theorem run_append_some {s' : σ} {xs ys : List ε} (h : run step s (xs ++ ys) = some s') :
    ∃ t, run step s xs = some t ∧ run step t ys = some s' := by
  rw [run_append] at h
  exact Option.bind_eq_some_iff.1 h

/-- **What every step keeps, every run keeps.** -/
theorem run_inv (I : σ → Prop) (hI : ∀ s e s', I s → step s e = some s' → I s') :
    ∀ (es : List ε) (s s' : σ), I s → run step s es = some s' → I s'
  | [], s, s', hs, h => by cases h; exact hs
  | e :: es, s, s', hs, h => by
    obtain ⟨t, ht, hr⟩ := run_cons h
    exact run_inv I hI es t s' (hI s e t hs ht) hr

/-- **What every step that meets the condition keeps, every run whose steps meet it keeps.** -/
theorem along_inv (I : σ → Prop) (G : σ → ε → Prop) (hI : ∀ s e s', I s → G s e → step s e = some s' → I s') :
    ∀ (es : List ε) (s s' : σ), I s → Along step G s es → run step s es = some s' → I s'
  | [], s, s', hs, _, h => by cases h; exact hs
  | e :: es, s, s', hs, hG, h => by
    obtain ⟨t, ht, hr⟩ := run_cons h
    exact along_inv I G hI es t s' (hI s e t hs hG.1 ht) (hG.2 t ht) hr

theorem along_cons {t : σ} (hs : step s e = some t) (hG : G s e) (h : Along step G t es) : Along step G s (e :: es) :=
  ⟨hG, fun _ h' => Option.some.inj (hs.symm.trans h') ▸ h⟩

theorem along_append : ∀ (xs ys : List ε) (s : σ),
    Along step G s (xs ++ ys) ↔ Along step G s xs ∧ ∀ t, run step s xs = some t → Along step G t ys
  | [], ys, s => by simp [Along]
  | x :: xs, ys, s => by
    simp only [List.cons_append, Along]
    constructor
    · rintro ⟨hx, h⟩
      refine ⟨⟨hx, fun s' hs => ((along_append xs ys s').1 (h s' hs)).1⟩, fun t ht => ?_⟩
      obtain ⟨u, hu, hr⟩ := run_cons ht
      exact ((along_append xs ys u).1 (h u hu)).2 t hr
    · rintro ⟨⟨hx, h⟩, h2⟩
      refine ⟨hx, fun s' hs => (along_append xs ys s').2 ⟨h s' hs, fun t ht => h2 t ?_⟩⟩
      rw [run_of_step hs]
      exact ht

/-- What holds at every event of a state that meets an invariant, holds along every run. -/
theorem along_of_inv (I : σ → Prop) (hG : ∀ s e, I s → G s e) (hI : ∀ s e s', I s → step s e = some s' → I s') :
    ∀ {es : List ε} {s : σ}, I s → Along step G s es
  | [], _, _ => trivial
  | e :: _, s, hs => ⟨hG s e hs, fun t ht => along_of_inv I hG hI (hI s e t hs ht)⟩

/-- Two conditions on events that say the same where the first one's invariant holds, say the same along a run. -/
theorem along_congr {H : σ → ε → Prop} (I : σ → Prop) (hGH : ∀ s e, I s → (G s e ↔ H s e))
    (hI : ∀ s e s', I s → G s e → step s e = some s' → I s') :
    ∀ {es : List ε} {s : σ}, I s → (Along step G s es ↔ Along step H s es)
  | [], _, _ => Iff.rfl
  | e :: es, s, hs => by
    constructor
    · rintro ⟨hG, h⟩
      exact ⟨(hGH s e hs).1 hG, fun t ht => (along_congr I hGH hI (hI s e t hs hG ht)).1 (h t ht)⟩
    · rintro ⟨hH, h⟩
      have hG := (hGH s e hs).2 hH
      exact ⟨hG, fun t ht => (along_congr I hGH hI (hI s e t hs hG ht)).2 (h t ht)⟩

/-- **The condition at one event of a run whose events all meet it.** -/
theorem Along.at {t : σ} {pre post : List ε} {e : ε} (h : Along step G s (pre ++ e :: post))
    (ht : run step s pre = some t) : G t e :=
  (((along_append pre (e :: post) s).1 h).2 t ht).1

@[simp] theorem everyState_nil : EveryState step P s [] ↔ P s := by
  refine ⟨fun h => h [] s List.nil_prefix rfl, fun h pre s' hp hr => ?_⟩
  rw [List.prefix_nil.1 hp] at hr
  cases hr
  exact h

theorem everyState_cons {e : ε} :
    EveryState step P s (e :: es) ↔ P s ∧ ∀ t, step s e = some t → EveryState step P t es := by
  constructor
  · refine fun h => ⟨h [] s List.nil_prefix rfl, fun t ht pre s' hp hr => ?_⟩
    refine h (e :: pre) s' ((List.prefix_cons_inj e).2 hp) ?_
    rw [run_of_step ht]
    exact hr
  · rintro ⟨hs, h⟩ pre s' hp hr
    cases pre with
    | nil =>
      cases hr
      exact hs
    | cons x pre =>
      obtain ⟨rfl, hq⟩ := List.cons_prefix_cons.1 hp
      obtain ⟨t, ht, hr⟩ := run_cons hr
      exact h t ht pre s' hq hr

instance decidableEveryState (step : σ → ε → Option σ) (P : σ → Prop) [∀ s, Decidable (P s)] :
    ∀ (es : List ε) (s : σ), Decidable (EveryState step P s es)
  | [], _ => decidable_of_iff _ everyState_nil.symm
  | e :: es, s =>
    match hs : step s e with
    | none => decidable_of_iff (P s) ⟨fun h => everyState_cons.2 ⟨h, fun _ ht => by rw [hs] at ht; cases ht⟩,
        fun h => (everyState_cons.1 h).1⟩
    | some t =>
      haveI := decidableEveryState step P es t
      decidable_of_iff (P s ∧ EveryState step P t es)
        ⟨fun h => everyState_cons.2 ⟨h.1, fun _ ht => by rw [hs] at ht; cases ht; exact h.2⟩,
          fun h => ⟨(everyState_cons.1 h).1, (everyState_cons.1 h).2 t hs⟩⟩

/-- What every step that meets the condition keeps holds in every state of a run whose steps meet it. -/
theorem everyState_of_along {I : σ → Prop} (hI : ∀ s e s', I s → G s e → step s e = some s' → I s') :
    ∀ {es : List ε} {s : σ}, I s → Along step G s es → EveryState step I s es
  | [], _, hs, _ => everyState_nil.2 hs
  | _ :: _, _, hs, hG =>
    everyState_cons.2 ⟨hs, fun t ht => everyState_of_along hI (hI _ _ t hs hG.1 ht) (hG.2 t ht)⟩

theorem EveryState.imp {Q : σ → Prop} (h : EveryState step P s es) (hPQ : ∀ s, P s → Q s) : EveryState step Q s es :=
  fun pre s' hp hr => hPQ s' (h pre s' hp hr)

/-- **An invariant that a step keeps exactly when the condition holds** holds in every state of a run exactly when
the condition holds at every event. -/
theorem everyState_iff_along (P : σ → Prop) (G : σ → ε → Prop)
    (hP : ∀ s e s', P s → step s e = some s' → (P s' ↔ G s e)) (href : ∀ s e, step s e = none → G s e) :
    ∀ (es : List ε) (s : σ), P s → (EveryState step P s es ↔ Along step G s es)
  | [], s, hs => ⟨fun _ => trivial, fun _ => everyState_nil.2 hs⟩
  | e :: es, s, hs => by
    rw [everyState_cons, Along]
    constructor
    · rintro ⟨-, h⟩
      have hstep : ∀ t, step s e = some t → P t := fun t ht => h t ht [] t List.nil_prefix rfl
      refine ⟨?_, fun t ht => (everyState_iff_along P G hP href es t (hstep t ht)).1 (h t ht)⟩
      cases ht : step s e with
      | none => exact href s e ht
      | some t => exact (hP s e t hs ht).1 (hstep t ht)
    · rintro ⟨hG, h⟩
      exact ⟨hs, fun t ht => (everyState_iff_along P G hP href es t ((hP s e t hs ht).2 hG)).2 (h t ht)⟩

/-- The same with an invariant that every step keeps as long as `P` holds. -/
theorem everyState_iff_along_of_inv (I P : σ → Prop) (G : σ → ε → Prop)
    (hP : ∀ s e s', I s → P s → step s e = some s' → I s' ∧ (P s' ↔ G s e)) (href : ∀ s e, step s e = none → G s e)
    (es : List ε) (s : σ) (hi : I s) (hp : P s) : EveryState step P s es ↔ Along step G s es := by
  have hiff := everyState_iff_along (fun s => I s ∧ P s) G (fun s e s' h hs => by
    obtain ⟨hi', hiff⟩ := hP s e s' h.1 h.2 hs
    exact ⟨fun h' => hiff.1 h'.2, fun hG => ⟨hi', hiff.2 hG⟩⟩) href es s ⟨hi, hp⟩
  refine ⟨fun h => hiff.1 ?_, fun h pre s' hpre hr => (hiff.2 h pre s' hpre hr).2⟩
  clear hiff
  induction es generalizing s with
  | nil => exact everyState_nil.2 ⟨hi, hp⟩
  | cons e es ih =>
    obtain ⟨-, h⟩ := everyState_cons.1 h
    refine everyState_cons.2 ⟨⟨hi, hp⟩, fun t ht => ?_⟩
    have hpt : P t := h t ht [] t List.nil_prefix rfl
    exact ih t (hP s e t hi hp ht).1 hpt (h t ht)

end Lib
end OpenLogi
