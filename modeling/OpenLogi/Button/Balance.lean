import OpenLogi.Button.Worker
import OpenLogi.Lib.Lifecycle
/-!
# Balance — what one command can do to each press

Every function between two accesses takes each active press along its lifecycle: it stays active and only triggers, or
it ends.  `Balanced` says so for a list of events and the state that goes with it; it composes, and each operation has
its lemma.
-/
namespace OpenLogi
namespace Button

open OpenLogi.Core (Action)
open Lib (Mark Phase Table run run_append run_next_live run_next_fresh)

def ButtonRuntimeEvent.mark : ButtonRuntimeEvent → Mark
  | .started _ => .start
  | .ended _ _ => .stop
  | .triggered _ _ _ => .mid

/-- The marks that a list of events leaves on the lifecycle of one press. -/
def marks (t : PressToken) (events : List ButtonRuntimeEvent) : List Mark :=
  (events.filter fun event => event.press.token = t).map (·.mark)

@[simp] theorem marks_append (t : PressToken) (xs ys : List ButtonRuntimeEvent) :
    marks t (xs ++ ys) = marks t xs ++ marks t ys := by
  simp [marks]

variable {t : PressToken} {events : List ButtonRuntimeEvent} {s : ButtonState} {p : ActivePress}

theorem marks_eq_nil :
    marks t events = [] ↔ ∀ event ∈ events, event.press.token ≠ t := by
  simp [marks]

theorem mem_marks {event : ButtonRuntimeEvent} (h : event ∈ events) (ht : event.press.token = t) :
    event.mark ∈ marks t events :=
  List.mem_map_of_mem (List.mem_filter.2 ⟨h, decide_eq_true ht⟩)

def ButtonState.Holds (s : ButtonState) (t : PressToken) : Prop := ∃ press ∈ s.active, press.token = t

instance (s : ButtonState) (t : PressToken) : Decidable (s.Holds t) :=
  inferInstanceAs (Decidable (∃ press ∈ s.active.rows, press.token = t))

/-- The phase of a press that has started. -/
def ButtonState.phase (s : ButtonState) (t : PressToken) : Phase := if s.Holds t then .live else .over

/-- Two active presses of one token are one. -/
theorem ButtonState.eq_of_token {q : ActivePress} (hp : p ∈ s.active) (hq : q ∈ s.active) (h : p.token = q.token) :
    p = q :=
  Table.eq_of_key hp hq (congrArg PressToken.key h)

/-- The events and the state that follow take every active press along its lifecycle, start the presses of `born`, and
touch no other. -/
structure Balanced (born : List PressToken) (s : ButtonState) (out : List ButtonRuntimeEvent × ButtonState) : Prop where
  live : ∀ t, s.Holds t → run Phase.next .live (marks t out.1) = some (out.2.phase t)
  starts : ∀ t ∈ born, ¬ s.Holds t → run Phase.next .fresh (marks t out.1) = some (out.2.phase t)
  rest : ∀ t, t ∉ born → ¬ s.Holds t → marks t out.1 = [] ∧ ¬ out.2.Holds t

theorem ButtonState.phase_live (h : s.Holds t) : s.phase t = .live := if_pos h

theorem ButtonState.phase_over (h : ¬ s.Holds t) : s.phase t = .over := if_neg h

/-- Nothing is emitted and the same presses are active. -/
theorem Balanced.quiet {s' : ButtonState} (h : ∀ t, s'.Holds t ↔ s.Holds t) : Balanced [] s ([], s') where
  live := fun t ht => by rw [ButtonState.phase_live ((h t).2 ht)]; rfl
  starts := fun t ht => absurd ht List.not_mem_nil
  rest := fun t _ ht => ⟨rfl, fun h' => ht ((h t).1 h')⟩

theorem Balanced.trans {b₁ b₂ : List PressToken} {s₁ s₂ : ButtonState} {e₁ e₂ : List ButtonRuntimeEvent}
    (h₁ : Balanced b₁ s (e₁, s₁)) (h₂ : Balanced b₂ s₁ (e₂, s₂)) (hd : ∀ t ∈ b₂, t ∉ b₁ ∧ ¬ s.Holds t) :
    Balanced (b₁ ++ b₂) s (e₁ ++ e₂, s₂) := by
  -- once the first part is behind it, a press that the second does not start is live or over
  have hnext : ∀ t, t ∉ b₂ → run Phase.next (s₁.phase t) (marks t e₂) = some (s₂.phase t) := by
    intro t hb
    by_cases ht : s₁.Holds t
    · rw [ButtonState.phase_live ht]
      exact h₂.live t ht
    · obtain ⟨hm, ht'⟩ := h₂.rest t hb ht
      rw [ButtonState.phase_over ht, ButtonState.phase_over ht']
      show run _ _ (marks t e₂) = _
      rw [show marks t e₂ = [] from hm]
      rfl
  refine ⟨fun t ht => ?_, fun t hb ht => ?_, fun t hb ht => ?_⟩
  · have hb : t ∉ b₂ := fun hb => (hd t hb).2 ht
    show run _ _ (marks t (e₁ ++ e₂)) = _
    rw [marks_append, run_append, h₁.live t ht]
    exact hnext t hb
  · show run _ _ (marks t (e₁ ++ e₂)) = _
    rw [marks_append, run_append]
    rcases List.mem_append.1 hb with hb | hb
    · rw [h₁.starts t hb ht]
      exact hnext t fun hb' => (hd t hb').1 hb
    · obtain ⟨hm, ht'⟩ := h₁.rest t (hd t hb).1 ht
      rw [show marks t e₁ = [] from hm]
      exact h₂.starts t hb ht'
  · rw [List.mem_append, not_or] at hb
    obtain ⟨hm, ht'⟩ := h₁.rest t hb.1 ht
    obtain ⟨hm', ht''⟩ := h₂.rest t hb.2 ht'
    refine ⟨?_, ht''⟩
    show marks t (e₁ ++ e₂) = []
    rw [marks_append, show marks t e₁ = [] from hm, show marks t e₂ = [] from hm']
    rfl

/-- A press that ends is not active afterwards. -/
theorem Balanced.not_holds {born : List PressToken} {out : List ButtonRuntimeEvent × ButtonState}
    (h : Balanced born s out) {event : ButtonRuntimeEvent} (hev : event ∈ out.1) (hm : event.mark = .stop) :
    ¬ out.2.Holds event.press.token := by
  intro hl
  have hstop : Mark.stop ∈ marks event.press.token out.1 := hm ▸ mem_marks hev rfl
  by_cases hs : s.Holds event.press.token
  · have hrun := h.live _ hs
    rw [ButtonState.phase_live hl] at hrun
    rcases run_next_live hrun with ⟨-, k, hk⟩ | ⟨hover, -⟩
    · rw [hk] at hstop
      cases List.eq_of_mem_replicate hstop
    · cases hover
  · by_cases hb : event.press.token ∈ born
    · have hrun := h.starts _ hb hs
      rw [ButtonState.phase_live hl] at hrun
      rcases run_next_fresh hrun with ⟨hfresh, -⟩ | ⟨-, k, hk⟩ | ⟨hover, -⟩
      · cases hfresh
      · rw [hk] at hstop
        rcases List.mem_cons.1 hstop with hstart | hmid
        · cases hstart
        · cases List.eq_of_mem_replicate hmid
      · cases hover
    · exact (h.rest _ hb hs).2 hl

/-! ## The operations -/

theorem marks_emitCanceled (t : PressToken) (presses : List ActivePress) (reason : CancelReason) :
    marks t (emitCanceled presses reason) = (presses.filter fun press => press.token = t).map fun _ => .stop := by
  simp only [marks, emitCanceled, List.filter_map, List.map_map]
  rfl

/-- A press that is active has one row of its token, whatever else is asked of it. -/
theorem ButtonState.filter_token (hp : p ∈ s.active) (pick : ActivePress → Bool) :
    (s.active.rows.filter pick).filter (fun press => press.token = p.token) = if pick p then [p] else [] := by
  rw [List.filter_filter]
  by_cases hpick : pick p = true
  · rw [if_pos hpick]
    refine Table.filter_eq_singleton hp (by simp [hpick]) fun q hq h => ?_
    rw [Bool.and_eq_true, decide_eq_true_iff] at h
    exact congrArg PressToken.key h.1
  · rw [if_neg hpick, List.filter_eq_nil_iff]
    intro q hq h
    rw [Bool.and_eq_true, decide_eq_true_iff] at h
    rw [eq_of_token hq hp h.1] at h
    exact hpick h.2

/-- The presses that are picked end, and the others stay as they are. -/
theorem balanced_cancelWhere (s : ButtonState) (pick : ActivePress → Bool) (reason : CancelReason) :
    Balanced [] s (emitCanceled (s.cancelWhere pick).1 reason, (s.cancelWhere pick).2) := by
  refine ⟨?_, fun t ht => absurd ht List.not_mem_nil, fun t _ ht => ⟨?_, ?_⟩⟩
  · rintro t ⟨p, hp, rfl⟩
    show run _ _ (marks p.token (emitCanceled _ reason)) = _
    rw [marks_emitCanceled]
    show run _ _ (((s.active.rows.filter pick).filter _).map _) = _
    rw [ButtonState.filter_token hp]
    by_cases hpick : pick p = true
    · rw [if_pos hpick, ButtonState.phase_over]
      · rfl
      · rintro ⟨q, hq, he⟩
        obtain ⟨hq, hn⟩ := Table.mem_filter.1 hq
        rw [ButtonState.eq_of_token hq hp he, hpick] at hn
        cases hn
    · rw [if_neg hpick, ButtonState.phase_live]
      · rfl
      · exact ⟨p, Table.mem_filter.2 ⟨hp, by simpa using hpick⟩, rfl⟩
  · show marks t (emitCanceled _ reason) = []
    rw [marks_eq_nil]
    intro event he heq
    obtain ⟨p, hp, rfl⟩ := List.mem_map.1 he
    exact ht ⟨p, (List.mem_filter.1 hp).1, heq⟩
  · rintro ⟨p, hp, he⟩
    exact ht ⟨p, (Table.mem_filter.1 hp).1, he⟩

/-- The press of one key ends, after events of its own that trigger only. -/
theorem balanced_erase (hp : p ∈ s.active) {k : Nat} (ht : ∀ event ∈ events, event.press.token = p.token)
    (hm : marks p.token events = List.replicate k .mid ++ [.stop]) :
    Balanced [] s (events, ⟨s.active.erase p.key⟩) := by
  have hrun : ∀ k, run Phase.next .live (List.replicate k .mid ++ [.stop]) = some .over := by
    intro k
    induction k with
    | zero => rfl
    | succ k ih => exact ih
  have hgone : ∀ q ∈ s.active.erase p.key, q.token ≠ p.token := fun q hq he =>
    (Table.mem_erase.1 hq).2 (congrArg PressToken.key he)
  refine ⟨?_, fun t ht => absurd ht List.not_mem_nil, fun t _ hn => ⟨?_, ?_⟩⟩
  · rintro t ⟨q, hq, rfl⟩
    by_cases he : q.token = p.token
    · rw [he, ButtonState.phase_over (by rintro ⟨r, hr, h⟩; exact hgone r hr h)]
      show run _ _ (marks p.token events) = _
      rw [hm]
      exact hrun k
    · have hnil : marks q.token events = [] := marks_eq_nil.2 fun event hev h => he (h.symm.trans (ht event hev))
      show run _ _ (marks q.token events) = _
      rw [hnil, ButtonState.phase_live]
      · rfl
      · refine ⟨q, Table.mem_erase.2 ⟨hq, fun hk => he ?_⟩, rfl⟩
        rw [Table.eq_of_key hq hp hk]
  · exact marks_eq_nil.2 fun event hev h => hn ⟨p, hp, (ht event hev).symm.trans h⟩
  · rintro ⟨q, hq, he⟩
    exact hn ⟨q, (Table.mem_erase.1 hq).1, he⟩

/-- A press starts where none of its key is active. -/
theorem balanced_start (hk : ∀ q ∈ s.active, q.key ≠ p.key) :
    Balanced [p.token] s ([.started p], ⟨s.active.insert p⟩) := by
  have hnot : ∀ t, s.Holds t → t ≠ p.token := by
    rintro t ⟨q, hq, rfl⟩ he
    exact hk q hq (congrArg PressToken.key he)
  refine ⟨fun t ht => ?_, fun t ht hn => ?_, fun t ht hn => ⟨?_, ?_⟩⟩
  · have hnil : marks t [.started p] = [] := marks_eq_nil.2 fun event hev h => by
      rw [List.mem_singleton.1 hev] at h
      exact hnot t ht h.symm
    show run _ _ (marks t [.started p]) = _
    rw [hnil, ButtonState.phase_live]
    · rfl
    · obtain ⟨q, hq, rfl⟩ := ht
      exact ⟨q, Table.mem_insert.2 (Or.inr ⟨hq, hk q hq⟩), rfl⟩
  · have hp : ButtonState.Holds ⟨s.active.insert p⟩ p.token := ⟨p, Table.mem_insert.2 (Or.inl rfl), rfl⟩
    rw [List.mem_singleton.1 ht]
    show run _ _ (marks p.token [.started p]) = some (ButtonState.phase ⟨s.active.insert p⟩ p.token)
    rw [ButtonState.phase_live hp, show marks p.token [.started p] = [.start] from by
      simp [marks, ButtonRuntimeEvent.press, ButtonRuntimeEvent.mark]]
    rfl
  · refine marks_eq_nil.2 fun event hev h => ht ?_
    rw [List.mem_singleton.1 hev] at h
    exact List.mem_singleton.2 h.symm
  · rintro ⟨q, hq, rfl⟩
    rcases Table.mem_insert.1 hq with rfl | ⟨hq, _⟩
    · exact ht (List.mem_singleton.2 rfl)
    · exact hn ⟨q, hq, rfl⟩

/-- A release triggers what the behavior still owes, then ends the press. -/
theorem marks_emitReleased (p : ActivePress) (cause : TriggerCause) :
    (∀ event ∈ emitReleased p cause, event.press.token = p.token) ∧
    ∃ k, marks p.token (emitReleased p cause) = List.replicate k .mid ++ [.stop] := by
  unfold emitReleased
  cases p.behavior.releaseAction with
  | none =>
    refine ⟨fun event h => ?_, 0, by simp [marks, ButtonRuntimeEvent.press, ButtonRuntimeEvent.mark]⟩
    rw [List.mem_singleton.1 h]
    rfl
  | some action =>
    refine ⟨fun event h => ?_, 1, by simp [marks, ButtonRuntimeEvent.press, ButtonRuntimeEvent.mark]⟩
    rcases List.mem_cons.1 h with rfl | h
    · rfl
    · rw [List.mem_singleton.1 h]
      rfl

theorem balanced_release (hp : p ∈ s.active) (cause : TriggerCause) :
    Balanced [] s (emitReleased p cause, ⟨s.active.erase p.key⟩) := by
  obtain ⟨ht, k, hm⟩ := marks_emitReleased p cause
  exact balanced_erase hp ht hm

theorem balanced_down (hp : ¬ s.Holds p.token) :
    Balanced [p.token] s (emitStarted (s.press p).1 p, (s.press p).2) := by
  have herase : Balanced [] s (emitCanceled (s.press p).1.toList .repeatedDown, ⟨s.active.erase p.key⟩) := by
    show Balanced [] s (emitCanceled (s.active.get? p.key).toList .repeatedDown, _)
    cases hg : s.active.get? p.key with
    | none =>
      refine Balanced.quiet fun t => ⟨?_, ?_⟩
      · rintro ⟨q, hq, he⟩
        exact ⟨q, (Table.mem_erase.1 hq).1, he⟩
      · rintro ⟨q, hq, he⟩
        exact ⟨q, Table.mem_erase.2 ⟨hq, Table.get?_eq_none.1 hg q hq⟩, he⟩
    | some q =>
      obtain ⟨hq, hk⟩ := Table.mem_of_get? hg
      rw [← hk]
      exact balanced_erase hq (k := 0) (fun event h => by rw [List.mem_singleton.1 h]; rfl) (by
        simp [marks, emitCanceled, ButtonRuntimeEvent.press, ButtonRuntimeEvent.mark])
  have hstart : Balanced [p.token] ⟨s.active.erase p.key⟩ ([.started p], (s.press p).2) := by
    have h := balanced_start (s := ⟨s.active.erase p.key⟩) (p := p) fun q hq => (Table.mem_erase.1 hq).2
    have he : (⟨(s.active.erase p.key).insert p⟩ : ButtonState) = (s.press p).2 := by
      simp [ButtonState.press, Table.insert, Table.erase, Table.filter, ActivePress.key]
    rw [← he]
    exact h
  exact herase.trans hstart fun t ht => ⟨List.not_mem_nil, by rw [List.mem_singleton.1 ht]; exact hp⟩

/-- Events that only trigger active presses. -/
theorem balanced_mids {s' : ButtonState} (hs : ∀ t, s'.Holds t ↔ s.Holds t) (hm : ∀ event ∈ events, event.mark = .mid)
    (ht : ∀ event ∈ events, s.Holds event.press.token) :
    Balanced [] s (events, s') := by
  have hrun : ∀ l : List Mark, (∀ m ∈ l, m = .mid) → run Phase.next .live l = some .live := by
    intro l
    induction l with
    | nil => intro _; rfl
    | cons m l ih =>
      intro h
      rw [h m List.mem_cons_self]
      exact ih fun m' hm' => h m' (List.mem_cons_of_mem _ hm')
  refine ⟨fun t hl => ?_, fun t h => absurd h List.not_mem_nil, fun t _ hn => ⟨?_, fun h => hn ((hs t).1 h)⟩⟩
  · rw [ButtonState.phase_live ((hs t).2 hl)]
    refine hrun _ fun m hmem => ?_
    obtain ⟨event, hev, rfl⟩ := List.mem_map.1 hmem
    exact hm event (List.mem_filter.1 hev).1
  · exact marks_eq_nil.2 fun event hev he => hn (he ▸ ht event hev)

/-! ## One command -/

/-- The presses that a command may start. -/
def ButtonCommand.presses : ButtonCommand → List ActivePress
  | .input _ (.down press) | .input _ (.pulse press) => [press]
  | _ => []

/-- **What a command can do**: one case for each way to end, start or trigger presses. -/
inductive Effect (s : ButtonState) (command : ButtonCommand) (generation : Nat) :
    List ButtonRuntimeEvent × ButtonState → Prop where
  | quiet : Effect s command generation ([], s)
  | wheel (token : PressToken) : Effect s command generation ([], s.wheelMoved token)
  | cancel (pick : ActivePress → Bool) (reason : CancelReason) :
      Effect s command generation (emitCanceled (s.cancelWhere pick).1 reason, (s.cancelWhere pick).2)
  | pointer (current : PointerTarget) :
      Effect s command generation
        (emitCanceled (s.cancelPointerExcept current).1 .invalidated, (s.cancelPointerExcept current).2)
  | stale (press : ActivePress) (h : press ∈ s.active) :
      Effect s command generation (emitCanceled [press] .staleHold, ⟨s.active.erase press.key⟩)
  | down (press : ActivePress) (h : press ∈ command.presses) :
      Effect s command generation (emitStarted (s.press press).1 press, (s.press press).2)
  | pulse (press : ActivePress) (h : press ∈ command.presses) :
      Effect s command generation
        (emitStarted (s.press press).1 press ++ emitReleased press .pulse, ⟨(s.press press).2.active.erase press.key⟩)
  | gesture (press : ActivePress) (h : press ∈ s.active) (action : Action) :
      Effect s command generation ([.triggered press action .gesture], s)
  | released (press : ActivePress) (h : press ∈ s.active) (releasedAt : Nat)
      (hc : command = .input generation (.up press.key releasedAt)) (hf : press.fireLong releasedAt = none) :
      Effect s command generation (emitReleased press (.release releasedAt), ⟨s.active.erase press.key⟩)
  | fired (press : ActivePress) (h : press ∈ s.active) (releasedAt : Nat)
      (hc : command = .input generation (.up press.key releasedAt)) (short long : Action) (deadline : Nat)
      (hb : press.behavior = .longPressPending short long deadline) (hd : deadline ≤ releasedAt) :
      Effect s command generation
        ([.triggered { press with behavior := .longPressFired } long (.release releasedAt),
          .ended { press with behavior := .longPressFired } .released], ⟨s.active.erase press.key⟩)

theorem ButtonState.mem_of_activePress {token : PressToken} {press : ActivePress}
    (h : s.activePress token = some press) : press ∈ s.active ∧ s.active.get? token.key = some press := by
  obtain ⟨hg, -⟩ := Option.filter_eq_some_iff.1 h
  exact ⟨(Table.mem_of_get? hg).1, hg⟩

theorem processInput_effect (s : ButtonState) (generation : Nat) (input : ButtonInput) :
    Effect s (.input generation input) generation (processInput s input) := by
  cases input with
  | down press => exact .down press (List.mem_singleton.2 rfl)
  | up key releasedAt =>
    simp only [processInput, ButtonState.release]
    cases hg : s.active.get? key with
    | none =>
      simp only [Table.erase_of_get? hg]
      exact .quiet
    | some press =>
      obtain ⟨hp, rfl⟩ := Table.mem_of_get? hg
      cases hf : press.fireLong releasedAt with
      | none => simpa only [hf] using .released press hp releasedAt rfl hf
      | some fired =>
        obtain ⟨action, press'⟩ := fired
        obtain ⟨short, deadline, hb, hd, rfl⟩ := ActivePress.fireLong_eq_some.1 hf
        simpa only [hf] using .fired press hp releasedAt rfl short action deadline hb hd
  | pulse press =>
    have hg : (s.press press).2.active.get? press.key = some press :=
      Table.get?_of_mem (Table.mem_insert.2 (Or.inl rfl))
    simp only [processInput, ButtonState.release, hg]
    exact .pulse press (List.mem_singleton.2 rfl)
  | triggerWhilePressed token action =>
    simp only [processInput]
    cases ha : s.activePress token with
    | none => exact .quiet
    | some press => exact .gesture press (ButtonState.mem_of_activePress ha).1 action
  | wheelWhilePressed token => exact .wheel token

theorem processCommand_effect (s : ButtonState) (command : ButtonCommand) (generation : Nat) :
    Effect s command generation (processCommand s command generation) := by
  cases command with
  | input inputGeneration input =>
    simp only [processCommand]
    split
    · rename_i he
      rw [he]
      exact processInput_effect s generation input
    · exact .quiet
  | wake => exact .quiet
  | cancelStalePress token =>
    simp only [processCommand, ButtonState.cancelPress]
    cases ha : s.activePress token with
    | none => exact .quiet
    | some press =>
      obtain ⟨hp, hg⟩ := ButtonState.mem_of_activePress ha
      have hk : token.key = press.key := (Table.mem_of_get? hg).2.symm
      rw [hk] at hg
      simp only [hk, hg]
      exact .stale press hp
  | cancelSource source => exact .cancel _ _
  | cancelGKeys source => exact .cancel _ _
  | cancelHooks => exact .cancel _ _
  | cancelPointerExcept current => exact .pointer current

theorem holds_map {f : ActivePress → ActivePress} (hf : ∀ a, (f a).key = a.key) (ht : ∀ a, (f a).token = a.token)
    (t : PressToken) : ButtonState.Holds ⟨s.active.map f hf⟩ t ↔ s.Holds t := by
  constructor
  · rintro ⟨q, hq, rfl⟩
    obtain ⟨p, hp, rfl⟩ := List.mem_map.1 hq
    exact ⟨p, hp, (ht p).symm⟩
  · rintro ⟨p, hp, rfl⟩
    exact ⟨f p, List.mem_map_of_mem hp, ht p⟩

/-- **A command takes every press along its lifecycle.** -/
theorem Effect.balanced {command : ButtonCommand} {generation : Nat} {out : List ButtonRuntimeEvent × ButtonState}
    (h : Effect s command generation out) (hfresh : ∀ p ∈ command.presses, ¬ s.Holds p.token) :
    ∃ born, (∀ t ∈ born, ∃ p ∈ command.presses, p.token = t) ∧ Balanced born s out := by
  have hnil : ∀ t ∈ ([] : List PressToken), ∃ p ∈ command.presses, p.token = t := fun _ h => absurd h List.not_mem_nil
  have hone : ∀ press ∈ command.presses, ∀ t ∈ [press.token], ∃ p ∈ command.presses, p.token = t :=
    fun press hp t ht => ⟨press, hp, (List.mem_singleton.1 ht).symm⟩
  cases h with
  | quiet => exact ⟨[], hnil, .quiet fun _ => Iff.rfl⟩
  | wheel token => exact ⟨[], hnil, .quiet (holds_map _ (by intro a; split <;> rfl))⟩
  | cancel pick reason => exact ⟨[], hnil, balanced_cancelWhere s pick reason⟩
  | pointer current =>
    have hfollow := Balanced.quiet (s := s) (holds_map (f := (·.follow current))
      (by intro a; simp [ActivePress.key]) (ActivePress.follow_token current))
    exact ⟨[], hnil, hfollow.trans (balanced_cancelWhere _ _ .invalidated) fun _ h => absurd h List.not_mem_nil⟩
  | stale press hp =>
    refine ⟨[], hnil, balanced_erase hp (k := 0) (fun event h => ?_) ?_⟩
    · rw [List.mem_singleton.1 h]
      rfl
    · simp [marks, emitCanceled, ButtonRuntimeEvent.press, ButtonRuntimeEvent.mark]
  | down press hp => exact ⟨[press.token], hone press hp, balanced_down (hfresh press hp)⟩
  | pulse press hp =>
    refine ⟨[press.token], hone press hp, ?_⟩
    exact (balanced_down (hfresh press hp)).trans
      (balanced_release (Table.mem_insert.2 (Or.inl rfl)) .pulse) fun _ h => absurd h List.not_mem_nil
  | gesture press hp action =>
    refine ⟨[], hnil, balanced_mids (fun _ => Iff.rfl) (fun event h => ?_) fun event h => ?_⟩ <;>
      rw [List.mem_singleton.1 h]
    · rfl
    · exact ⟨press, hp, rfl⟩
  | released press hp releasedAt hc hf => exact ⟨[], hnil, balanced_release hp _⟩
  | fired press hp releasedAt hc short long deadline hb hd =>
    refine ⟨[], hnil, balanced_erase hp (k := 1) (fun event h => ?_) ?_⟩
    · rcases List.mem_cons.1 h with rfl | h
      · rfl
      · rw [List.mem_singleton.1 h]
        rfl
    · simp [marks, ButtonRuntimeEvent.press, ButtonRuntimeEvent.mark]

end Button
end OpenLogi
