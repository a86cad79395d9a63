import Mathlib.Logic.Basic
/-!
# Attempt — work that may fail on its way

An attempt reads and changes a state in steps, and may fail between them; what it changed by then stays.  `Holds` is
its rule of pre- and postconditions, with a condition on every state it passes.
-/
namespace OpenLogi
namespace Lib

/-- What came of an attempt: the states it passed, its result unless it failed, and the state it left. -/
structure Ran (σ α : Type) where
  passed : List σ
  result : Option α
  state : σ

def Attempt (σ α : Type) := σ → Ran σ α

namespace Attempt

variable {σ α β : Type}

protected def pure (a : α) : Attempt σ α := fun s => ⟨[], some a, s⟩

protected def bind (t : Attempt σ α) (f : α → Attempt σ β) : Attempt σ β := fun s =>
  match (t s).result with
  | none => ⟨(t s).passed, none, (t s).state⟩
  | some a =>
    let r := f a (t s).state
    ⟨r.passed ++ (t s).passed, r.result, r.state⟩

instance : Monad (Attempt σ) where
  pure := Attempt.pure
  bind := Attempt.bind

/-- The state as it is. -/
def get : Attempt σ σ := fun s => ⟨[], some s, s⟩

def modify (f : σ → σ) : Attempt σ Unit := fun s => ⟨[f s], some (), f s⟩

/-- One attempt for each element of a list, in order. -/
def each (f : α → Attempt σ Unit) : List α → Attempt σ Unit
  | [] => pure ()
  | a :: l => do
    f a
    each f l

/-! ## Pre- and postconditions -/

/-- From a state with `P` the attempt passes states with `M` only; it ends in a state with `Q`, or fails in one with
`M`. -/
def Holds (M P : σ → Prop) (t : Attempt σ α) (Q : α → σ → Prop) : Prop :=
  ∀ s, P s → (∀ m ∈ (t s).passed, M m) ∧ (∀ a, (t s).result = some a → Q a (t s).state) ∧
    ((t s).result = none → M (t s).state)

variable {M P P' : σ → Prop} {t : Attempt σ α} {f : α → Attempt σ β} {Q Q' : α → σ → Prop} {R : β → σ → Prop}

theorem Holds.imp (h : Holds M P t Q) (hP : ∀ s, P' s → P s) (hQ : ∀ a s, Q a s → Q' a s) : Holds M P' t Q' :=
  fun s hs =>
    have ⟨hpassed, hok, hfailed⟩ := h s (hP s hs)
    ⟨hpassed, fun a ha => hQ a _ (hok a ha), hfailed⟩

theorem Holds.pre (h : Holds M P t Q) (hP : ∀ s, P' s → P s) : Holds M P' t Q := h.imp hP fun _ _ hq => hq

/-- What the precondition says of no state may be used at once. -/
theorem Holds.given {φ : Prop} (h : φ → Holds M P t Q) : Holds M (fun s => φ ∧ P s) t Q := fun s hs => h hs.1 s hs.2

theorem holds_pure {a : α} (h : ∀ s, P s → Q a s) : Holds M P (pure a) Q := fun s hs =>
  ⟨fun m hm => (by cases hm), fun b hb => Option.some.inj hb ▸ h s hs, fun hn => (by cases hn)⟩

theorem holds_get {Q : σ → σ → Prop} (h : ∀ s, P s → Q s s) : Holds M P get Q := fun s hs =>
  ⟨fun m hm => (by cases hm), fun b hb => Option.some.inj hb ▸ h s hs, fun hn => (by cases hn)⟩

theorem holds_modify {g : σ → σ} {Q : Unit → σ → Prop} (h : ∀ s, P s → M (g s) ∧ Q () (g s)) :
    Holds M P (modify g) Q := fun s hs =>
  ⟨fun _ hm => List.mem_singleton.1 hm ▸ (h s hs).1, fun _ _ => (h s hs).2, fun hn => (by cases hn)⟩

/-- **Composition.** -/
theorem Holds.bind (ht : Holds M P t Q) (hf : ∀ a, Holds M (Q a) (f a) R) : Holds M P (t >>= f) R := by
  intro s hs
  obtain ⟨hpassed, hok, hfailed⟩ := ht s hs
  change (∀ m ∈ (t.bind f s).passed, M m) ∧ (∀ b, (t.bind f s).result = some b → R b (t.bind f s).state) ∧
    ((t.bind f s).result = none → M (t.bind f s).state)
  unfold Attempt.bind
  cases hr : (t s).result with
  | none => exact ⟨hpassed, fun b hb => (by cases hb), fun _ => hfailed hr⟩
  | some a =>
    obtain ⟨hpassed', hok', hfailed'⟩ := hf a _ (hok a hr)
    exact ⟨fun m hm => (List.mem_append.1 hm).elim (hpassed' m) (hpassed m), hok', hfailed'⟩

/-- **A loop**, by a condition on what is left of the list. -/
theorem holds_each {g : α → Attempt σ Unit} {I : List α → σ → Prop} : ∀ (l : List α)
    (_ : ∀ a rest, a :: rest <:+ l → Holds M (I (a :: rest)) (g a) fun _ => I rest),
    Holds M (I l) (each g l) fun _ => I []
  | [], _ => holds_pure fun _ hs => hs
  | a :: l, h => (h a l (List.suffix_refl _)).bind fun _ =>
      holds_each l fun b rest hsuffix => h b rest (hsuffix.trans (List.suffix_cons a l))

/-! ## Success -/

/-- From a state with `P` the attempt succeeds, and keeps `P`. -/
def Succeeds (P : σ → Prop) (t : Attempt σ α) : Prop := ∀ s, P s → (t s).result.isSome ∧ P (t s).state

theorem succeeds_pure {a : α} : Succeeds P (pure a) := fun _ hs => ⟨rfl, hs⟩

theorem succeeds_get : Succeeds P (get : Attempt σ σ) := fun _ hs => ⟨rfl, hs⟩

theorem succeeds_modify {g : σ → σ} (h : ∀ s, P s → P (g s)) : Succeeds P (modify g) := fun s hs => ⟨rfl, h s hs⟩

theorem Succeeds.bind (ht : Succeeds P t) (hf : ∀ a, Succeeds P (f a)) : Succeeds P (t >>= f) := by
  intro s hs
  obtain ⟨hok, hstate⟩ := ht s hs
  obtain ⟨a, ha⟩ := Option.isSome_iff_exists.1 hok
  change (t.bind f s).result.isSome ∧ P (t.bind f s).state
  unfold Attempt.bind
  rw [ha]
  exact hf a _ hstate

theorem succeeds_each {g : α → Attempt σ Unit} (h : ∀ a, Succeeds P (g a)) : ∀ l : List α, Succeeds P (each g l)
  | [] => succeeds_pure
  | a :: l => (h a).bind fun _ => succeeds_each h l

end Attempt

end Lib
end OpenLogi
