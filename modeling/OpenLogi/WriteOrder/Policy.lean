import OpenLogi.Lib.Run
import OpenLogi.WriteOrder.Queue
/-!
# Policy — which intent of a route is current

The requests of one route in any order: pending RPCs that are confirmed or dropped at any time, published policies,
retirements, request-ordered writes and recoveries.  `confirm` consumes its pending write, so the drop that follows is
the only action left to it; other requests may come between the two.
-/
namespace OpenLogi
namespace WriteOrder

open Lib (run run_inv)

/-- A pending write a caller holds: its intent, and what `confirm` returned once it was called. -/
structure Held (T : Type) where
  intent : Intent T
  confirmed : Option Bool
  deriving DecidableEq

structure Book (T : Type) where
  state : State T
  held : List (Held T)
  /-- The intents the route committed to, newest first. -/
  commits : List (Intent T)
  deriving DecidableEq

inductive Request (T : Type) where
  | begin (value : T)
  | confirm (number : Nat)
  | drop (number : Nat)
  | syncPolicy (value : T)
  | retire
  | policy
  | requestValue (value : T)
  | scheduleRecovery
  | finishRecovery

section

variable {T : Type}

def Book.init : Book T := ⟨{}, [], []⟩

/-- The book after an operation left `state`: an intent it committed to is noted. -/
def Book.commit (b : Book T) (state : State T) : Book T :=
  { b with state := state, commits := state.committed.toList ++ b.commits }

variable [DecidableEq T]

/-- The book after an operation that may have left the committed intent alone. -/
def Book.publish (b : Book T) (state : State T) : Book T :=
  if state.committed = b.state.committed then { b with state := state } else b.commit state

variable [Inhabited T]

def Book.apply (b : Book T) : Request T → Option (Book T)
  | .begin value =>
    let (intent, state) := b.state.begin value
    some { b with state := state, held := ⟨intent, none⟩ :: b.held }
  | .confirm number =>
    match b.held.find? (fun h => h.intent.number == number && h.confirmed.isNone) with
    | none => none
    | some h =>
      let (ok, state) := b.state.confirm h.intent
      let held := b.held.map fun g => if g = h then { g with confirmed := some ok } else g
      some (if ok then { b.commit state with held := held } else { b with state := state, held := held })
  | .drop number =>
    match b.held.find? (fun h => h.intent.number == number) with
    | none => none
    | some h =>
      some { b with
        state := (b.state.dropPending h.intent).2
        held := b.held.filter fun g => g.intent.number != number }
  | .syncPolicy value => some (b.publish (b.state.syncPolicy value).2)
  | .retire => some (b.commit b.state.retire)
  | .policy => some b
  | .requestValue value => some (b.commit (b.state.requestValue value).2)
  | .scheduleRecovery => some { b with state := b.state.scheduleRecovery.2 }
  | .finishRecovery => some { b with state := b.state.finishRecovery }

/-! ## One operation -/

/-- Every number in use has been handed out. -/
structure State.Bounded (s : State T) : Prop where
  committed : s.committedNumber ≤ s.next
  pending : ∀ n ∈ s.pending, n ≤ s.next

omit [DecidableEq T] [Inhabited T]

variable {s : State T} {b : Book T}

theorem State.committedNumber_some {i : Intent T} (h : s.committed = some i) :
    s.committedNumber = i.number := by
  rw [State.committedNumber, h]

theorem State.latest_le {n : Nat} (hc : s.committedNumber ≤ n) (hp : ∀ m ∈ s.pending, m ≤ n) :
    s.latest ≤ n :=
  Nat.max_le.2 ⟨Finset.sup_le hp, hc⟩

theorem State.committedNumber_le_latest (s : State T) : s.committedNumber ≤ s.latest := Nat.le_max_right _ _

/-- With nothing newer pending, the committed intent is the latest. -/
theorem State.latest_eq_committedNumber (h : ∀ m ∈ s.pending, m ≤ s.committedNumber) :
    s.latest = s.committedNumber :=
  Nat.le_antisymm (State.latest_le (Nat.le_refl _) h) s.committedNumber_le_latest

theorem State.isCurrent_iff (s : State T) (n : Nat) : s.isCurrent n = true ↔ n = s.latest := by
  rw [State.isCurrent, beq_iff_eq, eq_comm]

/-- **What publishing a policy can do**: the committed intent stays, or it becomes the newest of all, or it becomes the
baseline where there was none.  The pending writes are left alone. -/
theorem State.syncPolicy_cases [DecidableEq T] (s : State T) (value : T) :
    let s' := (s.syncPolicy value).2
    s'.pending = s.pending ∧
    ((s'.committed = s.committed ∧ s'.next = s.next) ∨
      (s'.committed = some ⟨s.next + 1, value⟩ ∧ s'.next = s.next + 1) ∨
      (s.committed = none ∧ s'.committed = some ⟨0, value⟩ ∧ s'.next = s.next)) := by
  unfold State.syncPolicy
  split
  · exact ⟨rfl, Or.inl ⟨rfl, rfl⟩⟩
  split
  · exact ⟨rfl, Or.inl ⟨rfl, rfl⟩⟩
  split
  · refine ⟨rfl, ?_⟩
    cases hc : s.committed with
    | none => exact Or.inr (Or.inr ⟨rfl, rfl, rfl⟩)
    | some i => exact Or.inl ⟨rfl, rfl⟩
  · exact ⟨rfl, Or.inr (Or.inl ⟨rfl, rfl⟩)⟩

/-! ## The invariant -/

structure Book.Inv (b : Book T) : Prop where
  bounded : b.state.Bounded
  pending : ∀ n, n ∈ b.state.pending ↔ ∃ h ∈ b.held, h.intent.number = n
  confirmed : ∀ h ∈ b.held, h.confirmed = some true → h.intent.number ≤ b.state.committedNumber
  committed : b.state.committed = b.commits.head?
  log : ∀ i ∈ b.commits, i.number ≤ b.state.committedNumber

theorem Book.inv_init : Book.Inv (Book.init : Book T) where
  bounded := ⟨Nat.le_refl _, fun n hn => absurd hn (Finset.notMem_empty n)⟩
  pending := fun n => by simp [Book.init]
  confirmed := fun _ h => by cases h
  committed := rfl
  log := fun _ h => by cases h

/-- An operation that leaves the committed intent and the pending writes alone. -/
theorem Book.inv_same (hb : Book.Inv b) (hc : s.committed = b.state.committed) (hp : s.pending = b.state.pending)
    (hn : s.next = b.state.next) : Book.Inv { b with state := s } := by
  have hcn : s.committedNumber = b.state.committedNumber := by rw [State.committedNumber, hc, State.committedNumber]
  refine ⟨⟨?_, ?_⟩, ?_, ?_, ?_, ?_⟩
  · show s.committedNumber ≤ s.next
    rw [hcn, hn]; exact hb.bounded.committed
  · intro n h
    have h : n ∈ s.pending := h
    rw [hp] at h
    show n ≤ s.next
    rw [hn]; exact hb.bounded.pending n h
  · intro n
    show n ∈ s.pending ↔ _
    rw [hp]; exact hb.pending n
  · intro h hh ht
    show h.intent.number ≤ s.committedNumber
    rw [hcn]; exact hb.confirmed h hh ht
  · show s.committed = _
    rw [hc]; exact hb.committed
  · intro i hi
    show i.number ≤ s.committedNumber
    rw [hcn]; exact hb.log i hi

/-- An operation that commits to an intent at least as new as the committed one. -/
theorem Book.inv_commit {i : Intent T} (hb : Book.Inv b) (hc : s.committed = some i) (hp : s.pending = b.state.pending)
    (hn : b.state.next ≤ s.next) (hle : b.state.committedNumber ≤ i.number) (hi : i.number ≤ s.next) :
    Book.Inv (b.commit s) := by
  have hcn : s.committedNumber = i.number := State.committedNumber_some hc
  refine ⟨⟨?_, fun n h => ?_⟩, fun n => ?_, fun h hh ht => ?_, ?_, fun j hj => ?_⟩
  · show s.committedNumber ≤ s.next
    rw [hcn]; exact hi
  · have h : n ∈ s.pending := h
    rw [hp] at h
    exact Nat.le_trans (hb.bounded.pending n h) hn
  · show n ∈ s.pending ↔ _
    rw [hp]; exact hb.pending n
  · show h.intent.number ≤ s.committedNumber
    rw [hcn]; exact Nat.le_trans (hb.confirmed h hh ht) hle
  · show s.committed = (s.committed.toList ++ b.commits).head?
    rw [hc]; rfl
  · show j.number ≤ s.committedNumber
    have hj : j ∈ s.committed.toList ++ b.commits := hj
    rw [hc] at hj
    rw [hcn]
    rcases List.mem_cons.1 hj with rfl | hj
    · exact Nat.le_refl _
    · exact Nat.le_trans (hb.log j hj) hle

/-- Marking held writes as confirmed, where the marked ones are committed. -/
theorem Book.inv_mark (hb : Book.Inv b) (f : Held T → Held T) (hf : ∀ h, (f h).intent = h.intent)
    (hc : ∀ h ∈ b.held, (f h).confirmed = some true →
      h.confirmed = some true ∨ h.intent.number ≤ b.state.committedNumber) :
    Book.Inv { b with held := b.held.map f } where
  bounded := hb.bounded
  pending := fun n => by
    rw [hb.pending]
    simp [hf]
  confirmed := by
    intro g hg ht
    obtain ⟨h, hh, rfl⟩ := List.mem_map.1 hg
    rw [hf]
    rcases hc h hh ht with hh' | hle
    · exact hb.confirmed h hh hh'
    · exact hle
  committed := hb.committed
  log := hb.log

theorem Book.Inv.number_le (hb : Book.Inv b) {h : Held T} (hh : h ∈ b.held) :
    h.intent.number ≤ b.state.next :=
  hb.bounded.pending _ ((hb.pending _).2 ⟨h, hh, rfl⟩)

theorem Book.inv_begin (hb : Book.Inv b) (value : T) :
    Book.Inv { b with state := (b.state.begin value).2, held := ⟨(b.state.begin value).1, none⟩ :: b.held } where
  bounded := by
    refine ⟨Nat.le_succ_of_le hb.bounded.committed, fun n hn => ?_⟩
    rcases Finset.mem_insert.1 hn with rfl | hn
    · exact Nat.le_refl _
    · exact Nat.le_succ_of_le (hb.bounded.pending n hn)
  pending := by
    intro n
    show n ∈ insert (b.state.next + 1) b.state.pending ↔ _
    rw [Finset.mem_insert, hb.pending]
    simp [State.begin, State.intent, eq_comm]
  confirmed := by
    intro g hg ht
    rcases List.mem_cons.1 hg with rfl | hg
    · cases ht
    · exact hb.confirmed g hg ht
  committed := hb.committed
  log := hb.log

/-- The drop of a held write takes its number out of the pending ones. -/
theorem Book.inv_drop (hb : Book.Inv b) (i : Intent T) :
    Book.Inv { b with
      state := (b.state.dropPending i).2
      held := b.held.filter fun g => g.intent.number != i.number } := by
  obtain ⟨hc, hp, hn⟩ : (b.state.dropPending i).2.committed = b.state.committed ∧
      (b.state.dropPending i).2.pending = b.state.pending.erase i.number ∧
      (b.state.dropPending i).2.next = b.state.next := by
    unfold State.dropPending
    dsimp only
    split <;> exact ⟨rfl, rfl, rfl⟩
  have hcn : (b.state.dropPending i).2.committedNumber = b.state.committedNumber := by
    rw [State.committedNumber, hc, State.committedNumber]
  refine ⟨⟨?_, fun n h => ?_⟩, fun n => ?_, fun h hh ht => ?_, hc.trans hb.committed, fun j hj => ?_⟩
  · rw [hcn, hn]
    exact hb.bounded.committed
  · rw [hp] at h
    rw [hn]
    exact hb.bounded.pending n (Finset.mem_of_mem_erase h)
  · rw [hp, Finset.mem_erase, hb.pending]
    simp only [List.mem_filter, bne_iff_ne, ne_eq]
    constructor
    · rintro ⟨hne, h, hh, rfl⟩
      exact ⟨h, ⟨hh, hne⟩, rfl⟩
    · rintro ⟨h, ⟨hh, hne⟩, rfl⟩
      exact ⟨hne, h, hh, rfl⟩
  · rw [hcn]
    exact hb.confirmed h (List.mem_of_mem_filter hh) ht
  · rw [hcn]
    exact hb.log j hj

/-- Every committed intent of the past is at most the committed one. -/
theorem Book.Inv.committedNumber_mono {b' : Book T} (hb : Book.Inv b) (hb' : Book.Inv b')
    (hs : b.commits <:+ b'.commits) :
    b.state.committedNumber ≤ b'.state.committedNumber := by
  cases hc : b.state.committed with
  | none => rw [State.committedNumber, hc]; exact Nat.zero_le _
  | some i =>
    rw [State.committedNumber_some hc]
    refine hb'.log i (hs.subset ?_)
    exact List.mem_of_mem_head? (hb.committed ▸ hc)

/-- Unconfirmed writes all dropped, the confirmed ones left are not newer than the committed intent. -/
theorem Book.Inv.isCurrent_of_dropped (hb : Book.Inv b) (hd : ∀ h ∈ b.held, h.confirmed = some true) (n : Nat) :
    b.state.isCurrent n = true ↔ n = b.state.committedNumber := by
  rw [State.isCurrent_iff, State.latest_eq_committedNumber]
  intro m hm
  obtain ⟨h, hh, rfl⟩ := (hb.pending m).1 hm
  exact hb.confirmed h hh (hd h hh)

variable [DecidableEq T]

/-- A confirmed write is the newest, so it may be committed. -/
theorem Book.inv_confirm {b : Book T} (hb : Book.Inv b) {g : Held T} (hg : g ∈ b.held) (b' : Book T)
    (h : (let (ok, state) := b.state.confirm g.intent
      let held := b.held.map fun h => if h = g then { h with confirmed := some ok } else h
      if ok then { b.commit state with held := held } else { b with state := state, held := held }) = b') :
    Book.Inv b' := by
  unfold State.confirm at h
  dsimp only at h
  have hmark : ∀ ok, ∀ h : Held T, (if h = g then { h with confirmed := some ok } else h).intent = h.intent := by
    intro ok h
    split <;> rfl
  by_cases hl : b.state.latest = g.intent.number
  · rw [if_neg (not_not.2 hl)] at h
    dsimp only at h
    subst h
    have hle : b.state.committedNumber ≤ g.intent.number := hl ▸ b.state.committedNumber_le_latest
    have hb' : Book.Inv (b.commit { b.state with committed := some g.intent, recovery := .none }) :=
      Book.inv_commit hb rfl rfl (Nat.le_refl _) hle (hb.number_le hg)
    refine Book.inv_mark hb' (fun h => if h = g then { h with confirmed := some true } else h) (hmark true)
      fun h _ ht => ?_
    split at ht
    · rename_i he
      exact Or.inr (he ▸ Nat.le_refl _)
    · exact Or.inl ht
  · rw [if_pos hl] at h
    dsimp only at h
    subst h
    refine Book.inv_mark hb (fun h => if h = g then { h with confirmed := some false } else h) (hmark false)
      fun h _ ht => ?_
    split at ht
    · cases ht
    · exact Or.inl ht

theorem Book.inv_syncPolicy (hb : Book.Inv b) (value : T) :
    Book.Inv (b.publish (b.state.syncPolicy value).2) := by
  unfold Book.publish
  obtain ⟨hp, ⟨hc, hn⟩ | ⟨hc, hn⟩ | ⟨h0, hc, hn⟩⟩ := b.state.syncPolicy_cases value
  · rw [if_pos hc]
    exact Book.inv_same hb hc hp hn
  · split
    · rename_i he
      -- the new number would already be the committed one
      have := hb.bounded.committed
      rw [State.committedNumber_some (he.symm.trans hc)] at this
      exact absurd this (Nat.not_succ_le_self _)
    · exact Book.inv_commit hb hc hp (hn ▸ Nat.le_succ _) (Nat.le_succ_of_le hb.bounded.committed)
        (Nat.le_of_eq hn.symm)
  · rw [if_neg (by rw [hc, h0]; exact Option.some_ne_none _)]
    refine Book.inv_commit hb hc hp (Nat.le_of_eq hn.symm) ?_ (Nat.zero_le _)
    rw [State.committedNumber, h0]

variable [Inhabited T]

/-- **Every request keeps the invariant.** -/
theorem Book.inv_apply (b : Book T) (r : Request T) (b' : Book T) (hb : Book.Inv b) (h : b.apply r = some b') :
    Book.Inv b' := by
  cases r with
  | begin value => cases h; exact Book.inv_begin hb value
  | confirm number =>
    simp only [Book.apply] at h
    split at h
    · cases h
    · rename_i g hf
      exact Book.inv_confirm hb (List.mem_of_find?_eq_some hf) b' (Option.some.inj h)
  | drop number =>
    simp only [Book.apply] at h
    split at h
    · cases h
    · rename_i g hf
      have hnum : g.intent.number = number := by simpa using List.find?_some hf
      cases h
      rw [← hnum]
      exact Book.inv_drop hb g.intent
  | syncPolicy value => cases h; exact Book.inv_syncPolicy hb value
  | retire =>
    cases h
    exact Book.inv_commit hb rfl rfl (Nat.le_succ _) (Nat.le_succ_of_le hb.bounded.committed) (Nat.le_refl _)
  | policy => cases h; exact hb
  | requestValue value =>
    cases h
    exact Book.inv_commit hb rfl rfl (Nat.le_succ _) (Nat.le_succ_of_le hb.bounded.committed) (Nat.le_refl _)
  | scheduleRecovery =>
    cases h
    unfold State.scheduleRecovery
    split <;> exact Book.inv_same hb rfl rfl rfl
  | finishRecovery =>
    cases h
    unfold State.finishRecovery
    split <;> exact Book.inv_same hb rfl rfl rfl

theorem Book.inv_run {rs : List (Request T)} {b' : Book T} (hb : Book.Inv b) (h : run Book.apply b rs = some b') :
    Book.Inv b' :=
  run_inv Book.Inv Book.inv_apply rs b b' hb h

/-! ## What a run can do to the current intent -/

/-- What one request did to the committed intents: it noted none or one. -/
theorem commits_suffix (b : Book T) (r : Request T) (b' : Book T) (h : b.apply r = some b') :
    b.commits <:+ b'.commits := by
  cases r with
  | confirm number =>
    simp only [Book.apply] at h
    split at h
    · cases h
    · cases h
      split
      · exact List.suffix_append _ _
      · exact List.suffix_rfl
  | drop number =>
    simp only [Book.apply] at h
    split at h
    · cases h
    · cases h
      exact List.suffix_rfl
  | syncPolicy value =>
    cases h
    unfold Book.publish
    split
    · exact List.suffix_rfl
    · exact List.suffix_append _ _
  | begin value => cases h; exact List.suffix_rfl
  | retire => cases h; exact List.suffix_append _ _
  | policy => cases h; exact List.suffix_rfl
  | requestValue value => cases h; exact List.suffix_append _ _
  | scheduleRecovery => cases h; exact List.suffix_rfl
  | finishRecovery => cases h; exact List.suffix_rfl

theorem commits_suffix_run {rs : List (Request T)} {b' : Book T} (h : run Book.apply b rs = some b') :
    b.commits <:+ b'.commits :=
  run_inv (fun x => b.commits <:+ x.commits) (fun x r x' hx hr => hx.trans (commits_suffix x r x' hr)) rs b b'
    List.suffix_rfl h

/-- **The committed number never decreases, one number at most is current, a superseded one never is again**, and with
every unconfirmed write dropped the current one is that of the intent committed last. -/
theorem current_follows_commits {pre post : List (Request T)} {b b' : Book T}
    (h : run Book.apply Book.init pre = some b)
    (h' : run Book.apply b post = some b') :
    b.state.committedNumber ≤ b'.state.committedNumber ∧
    (∀ n m, b.state.isCurrent n = true → b.state.isCurrent m = true → n = m) ∧
    (∀ i ∈ b.commits, ∀ n, n < i.number → b'.state.isCurrent n = false) ∧
    ((∀ h ∈ b.held, h.confirmed = some true) →
      b.state.committed = b.commits.head? ∧ ∀ n, b.state.isCurrent n = true ↔ n = b.state.committedNumber) := by
  have hb : Book.Inv b := Book.inv_run Book.inv_init h
  have hb' : Book.Inv b' := Book.inv_run hb h'
  have hs := commits_suffix_run h'
  refine ⟨hb.committedNumber_mono hb' hs, fun n m hn hm => ?_, fun i hi n hlt => ?_,
    fun hd => ⟨hb.committed, hb.isCurrent_of_dropped hd⟩⟩
  · rw [(State.isCurrent_iff _ n).1 hn, (State.isCurrent_iff _ m).1 hm]
  · rw [Bool.eq_false_iff]
    intro hc
    rw [(State.isCurrent_iff _ n).1 hc] at hlt
    have := b'.state.committedNumber_le_latest
    have := hb'.log i (hs.subset hi)
    omega

/-- An RPC that a newer one overtook is refused, and once both are dropped the baseline is current again. -/
theorem baseline_current_after_drops :
    ∃ b b' : Book Bool, run Book.apply Book.init [.syncPolicy false, .begin true, .begin false, .confirm 1] = some b ∧
      run Book.apply b [.drop 1, .drop 2] = some b' ∧
      b.state.committedNumber ≤ b'.state.committedNumber ∧ ∀ n, b'.state.isCurrent n = true ↔ n = 0 := by
  let base : State Bool := { next := 2, committed := some ⟨0, false⟩, policy := some ⟨0, false⟩ }
  let b : Book Bool := ⟨{ base with pending := {2, 1} }, [⟨⟨2, false⟩, none⟩, ⟨⟨1, true⟩, some false⟩], [⟨0, false⟩]⟩
  let b' : Book Bool := ⟨{ base with recovery := .requested }, [], [⟨0, false⟩]⟩
  have h : run Book.apply Book.init [.syncPolicy false, .begin true, .begin false, .confirm 1] = some b := rfl
  have h' : run Book.apply b [.drop 1, .drop 2] = some b' := rfl
  have hrun : run Book.apply b' [] = some b' := rfl
  have hinit : run Book.apply Book.init
      ([.syncPolicy false, .begin true, .begin false, .confirm 1] ++ [.drop 1, .drop 2]) = some b' := by
    rw [Lib.run_append, h, Option.bind_some, h']
  exact ⟨b, b', h, h', (current_follows_commits h h').1,
    ((current_follows_commits hinit hrun).2.2.2 (fun _ hh => by cases hh)).2⟩

end

end WriteOrder
end OpenLogi
