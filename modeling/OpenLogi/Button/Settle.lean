import OpenLogi.Button.Balance
/-!
# Settle — the order of what a settle pass emits

A pass puts in front the events of the presses it found due and that have fired, so the marks of one press keep their
order unless something of it was put off before its late release.  `Effect.front` says which commands are such a
release, `Effect.survivor` which presses are active afterwards.
-/
namespace OpenLogi
namespace Button

open Lib (Table)

/-! ## What a settle pass emits -/

variable {t : PressToken} {events xs ys : List ButtonRuntimeEvent} {due : List PressToken} {s : ButtonState}

theorem marks_filter_of {q : ButtonRuntimeEvent → Bool} (h : ∀ event ∈ events, event.press.token = t → q event = true) :
    marks t (events.filter q) = marks t events := by
  unfold marks
  rw [List.filter_filter]
  refine congrArg (List.map _) (List.filter_congr fun event hev => ?_)
  by_cases ht : event.press.token = t
  · simp [ht, h event hev ht]
  · simp [ht]

theorem marks_filter_not {q : ButtonRuntimeEvent → Bool}
    (h : ∀ event ∈ events, event.press.token = t → q event = false) : marks t (events.filter q) = [] := by
  rw [marks_eq_nil]
  intro event hev ht
  obtain ⟨hev, hq⟩ := List.mem_filter.1 hev
  rw [h event hev ht] at hq
  cases hq

theorem marks_settle (t : PressToken) (due : List PressToken) (xs ys : List ButtonRuntimeEvent) :
    marks t (emitSettledEvents (xs ++ ys) due) =
      (marks t (xs.filter (isDeadlineEvent due)) ++ marks t (ys.filter (isDeadlineEvent due))) ++
        (marks t (xs.filter fun event => !isDeadlineEvent due event) ++
          marks t (ys.filter fun event => !isDeadlineEvent due event)) := by
  simp [emitSettledEvents]

theorem emitSettledEvents_perm (events : List ButtonRuntimeEvent) (due : List PressToken) :
    (emitSettledEvents events due).Perm events :=
  List.filter_append_perm _ _

/-- A pass that found nothing due keeps the order. -/
theorem emitSettledEvents_nil (events : List ButtonRuntimeEvent) : emitSettledEvents events [] = events := by
  have h : ∀ event, isDeadlineEvent [] event = false := fun event => by cases event <;> simp [isDeadlineEvent]
  simp [emitSettledEvents, h]

theorem mem_emitSettledEvents {event : ButtonRuntimeEvent} :
    event ∈ emitSettledEvents events due ↔ event ∈ events := by
  simp only [emitSettledEvents, List.mem_append, List.mem_filter]
  cases isDeadlineEvent due event <;> simp

/-- Events that are not put in front come last. -/
theorem marks_settle_ordered (h : ∀ event ∈ ys, event.press.token = t → isDeadlineEvent due event = false) :
    marks t (emitSettledEvents (xs ++ ys) due) = marks t (emitSettledEvents xs due) ++ marks t ys := by
  have hfront : marks t (ys.filter (isDeadlineEvent due)) = [] := marks_filter_not h
  have hrest : marks t (ys.filter fun event => !isDeadlineEvent due event) = marks t ys :=
    marks_filter_of fun event hev ht => by rw [h event hev ht]; rfl
  rw [marks_settle, hfront, hrest]
  simp [emitSettledEvents]

/-- The first events of a press come in their order, if they are all put in front. -/
theorem marks_settle_first (hx : ∀ event ∈ xs, event.press.token ≠ t)
    (hy : ∀ event ∈ ys, event.press.token = t → isDeadlineEvent due event = true) :
    marks t (emitSettledEvents (xs ++ ys) due) = marks t (emitSettledEvents xs due) ++ marks t ys := by
  have hnil : ∀ q : ButtonRuntimeEvent → Bool, marks t (xs.filter q) = [] := fun q =>
    marks_eq_nil.2 fun event hev => hx event (List.mem_filter.1 hev).1
  have hfront : marks t (ys.filter (isDeadlineEvent due)) = marks t ys := marks_filter_of hy
  have hrest : marks t (ys.filter fun event => !isDeadlineEvent due event) = [] :=
    marks_filter_not fun event hev ht => by rw [hy event hev ht]; rfl
  rw [marks_settle, hfront, hrest]
  simp [emitSettledEvents, hnil]

/-- Two lists of triggers come in either order. -/
theorem marks_settle_mids
    (hx : ∀ event ∈ xs, event.press.token = t → event.mark = .mid ∧ isDeadlineEvent due event = false)
    (hy : ∀ event ∈ ys, event.press.token = t → event.mark = .mid ∧ isDeadlineEvent due event = true) :
    marks t (emitSettledEvents (xs ++ ys) due) = marks t (emitSettledEvents xs due) ++ marks t ys := by
  have hall : ∀ zs : List ButtonRuntimeEvent, (∀ event ∈ zs, event.press.token = t → event.mark = .mid) →
      marks t zs = List.replicate (marks t zs).length .mid := by
    intro zs hz
    refine List.eq_replicate_of_mem fun m hm => ?_
    obtain ⟨event, hev, rfl⟩ := List.mem_map.1 hm
    obtain ⟨hev, ht⟩ := List.mem_filter.1 hev
    exact hz event hev (of_decide_eq_true ht)
  have hnot : ∀ event ∈ xs, event.press.token = t → (!isDeadlineEvent due event) = true := by
    intro event hev ht
    rw [(hx event hev ht).2]
    rfl
  have hnot' : ∀ event ∈ ys, event.press.token = t → (!isDeadlineEvent due event) = false := by
    intro event hev ht
    rw [(hy event hev ht).2]
    rfl
  have hxs : marks t (emitSettledEvents xs due) = marks t xs := by
    simp only [emitSettledEvents, marks_append]
    rw [marks_filter_not fun event hev ht => (hx event hev ht).2,
      marks_filter_of (q := fun event => !isDeadlineEvent due event) hnot]
    rfl
  rw [hxs, marks_settle, marks_filter_not fun event hev ht => (hx event hev ht).2,
    marks_filter_of fun event hev ht => (hy event hev ht).2,
    marks_filter_of (q := fun event => !isDeadlineEvent due event) hnot,
    marks_filter_not (q := fun event => !isDeadlineEvent due event) hnot', List.nil_append, List.append_nil,
    hall xs fun event hev ht => (hx event hev ht).1, hall ys fun event hev ht => (hy event hev ht).1,
    ← List.replicate_add, ← List.replicate_add, Nat.add_comm]

/-! ## What one command can do to the presses found due -/

@[simp] theorem PressBehavior.deadline_wheelMoved (behavior : PressBehavior) :
    behavior.wheelMoved.deadline = behavior.deadline := by
  cases behavior <;> rfl

/-- A press that is active after a command was active before it, or came with it. -/
theorem Effect.survivor {command : ButtonCommand} {generation : Nat} {out : List ButtonRuntimeEvent × ButtonState}
    (h : Effect s command generation out) {q : ActivePress} (hq : q ∈ out.2.active) :
    (∃ p ∈ s.active, p.token = q.token ∧ (q.behavior = p.behavior ∨ q.behavior = p.behavior.wheelMoved)) ∨
      q ∈ command.presses := by
  have hold : ∀ p ∈ s.active, p = q → (∃ p ∈ s.active, p.token = q.token ∧
      (q.behavior = p.behavior ∨ q.behavior = p.behavior.wheelMoved)) ∨ q ∈ command.presses :=
    fun p hp he => Or.inl ⟨p, hp, congrArg _ he, Or.inl (congrArg _ he.symm)⟩
  cases h with
  | quiet => exact hold q hq rfl
  | wheel token =>
    obtain ⟨p, hp, rfl⟩ := List.mem_map.1 hq
    refine Or.inl ⟨p, hp, ?_⟩
    split
    · exact ⟨rfl, Or.inr rfl⟩
    · exact ⟨rfl, Or.inl rfl⟩
  | cancel pick reason => exact hold q (Table.mem_filter.1 hq).1 rfl
  | pointer current =>
    obtain ⟨p, hp, rfl⟩ := List.mem_map.1 (List.mem_filter.1 hq).1
    exact Or.inl ⟨p, hp, (p.follow_token current).symm, Or.inl (p.follow_behavior current)⟩
  | stale press hp => exact hold q (Table.mem_erase.1 hq).1 rfl
  | down press hp =>
    rcases Table.mem_insert.1 hq with rfl | ⟨hq, -⟩
    · exact Or.inr hp
    · exact hold q hq rfl
  | pulse press hp =>
    obtain ⟨hq, hk⟩ := Table.mem_erase.1 hq
    rcases Table.mem_insert.1 hq with rfl | ⟨hq, -⟩
    · exact absurd rfl hk
    · exact hold q hq rfl
  | gesture press hp action => exact hold q hq rfl
  | released press hp releasedAt hc hf => exact hold q (Table.mem_erase.1 hq).1 rfl
  | fired press hp releasedAt hc short long deadline hb hd => exact hold q (Table.mem_erase.1 hq).1 rfl

theorem isDeadlineEvent_eq_false {event : ButtonRuntimeEvent}
    (h : event.press.token ∈ due → event.press.behavior.deadline ≠ none) : isDeadlineEvent due event = false := by
  have hb : event.press.token ∈ due → event.press.behavior ≠ .longPressFired := fun ht hb => h ht (by rw [hb]; rfl)
  cases event with
  | started press => rfl
  | ended press reason => exact decide_eq_false fun h' => hb h'.2 h'.1
  | triggered press action cause => exact decide_eq_false fun h' => hb h'.2 h'.1

/-- A release at the deadline or later, of a press found due. -/
def LateRelease (s : ButtonState) (due : List PressToken) (command : ButtonCommand) (generation : Nat)
    (press : ActivePress) : Prop :=
  press ∈ s.active ∧ press.token ∈ due ∧ ∃ releasedAt short long deadline,
    command = .input generation (.up press.key releasedAt) ∧
      press.behavior = .longPressPending short long deadline ∧ deadline ≤ releasedAt

/-- **Only a late release is put in front**, with all that it emits. -/
theorem Effect.front {command : ButtonCommand} {generation : Nat} {out : List ButtonRuntimeEvent × ButtonState}
    (h : Effect s command generation out) (hp : ∀ p ∈ s.active, p.token ∈ due → p.behavior.deadline ≠ none)
    (hn : ∀ p ∈ command.presses, p.token ∉ due) :
    (∀ event ∈ out.1, isDeadlineEvent due event = false) ∨
      ∃ press, LateRelease s due command generation press ∧ ¬ out.2.Holds press.token ∧
        ∀ event ∈ out.1, event.press.token = press.token ∧ isDeadlineEvent due event = true := by
  have hcanceled : ∀ (presses : List ActivePress) (reason : CancelReason),
      (∀ p ∈ presses, p.token ∈ due → p.behavior.deadline ≠ none) →
        ∀ event ∈ emitCanceled presses reason, isDeadlineEvent due event = false := by
    intro presses reason hpr event hev
    obtain ⟨p, hpm, rfl⟩ := List.mem_map.1 hev
    exact isDeadlineEvent_eq_false (hpr p hpm)
  have hstarted : ∀ p ∈ command.presses,
      ∀ event ∈ emitStarted (s.press p).1 p, isDeadlineEvent due event = false := by
    intro p hpm event hev
    rcases List.mem_append.1 hev with hev | hev
    · refine hcanceled _ _ (fun q hq => ?_) event hev
      exact hp q (Table.mem_of_get? (Option.mem_toList.1 hq)).1
    · rw [List.mem_singleton.1 hev]
      rfl
  have hreleased : ∀ (p : ActivePress) (cause : TriggerCause), (p.token ∈ due → p.behavior.deadline ≠ none) →
      ∀ event ∈ emitReleased p cause, isDeadlineEvent due event = false := by
    intro p cause hpr event hev
    rcases List.mem_append.1 hev with hev | hev
    · obtain ⟨action, -, rfl⟩ := List.mem_map.1 hev
      exact isDeadlineEvent_eq_false hpr
    · rw [List.mem_singleton.1 hev]
      exact isDeadlineEvent_eq_false hpr
  cases h with
  | quiet | wheel => exact Or.inl fun event hev => absurd hev List.not_mem_nil
  | cancel pick reason => exact Or.inl (hcanceled _ _ fun p hpm => hp p (List.mem_filter.1 hpm).1)
  | pointer current =>
    refine Or.inl (hcanceled _ _ fun p hpm ht => ?_)
    obtain ⟨q, hq, rfl⟩ := List.mem_map.1 (List.mem_filter.1 hpm).1
    rw [ActivePress.follow_behavior]
    exact hp q hq ((q.follow_token current) ▸ ht)
  | stale press hpm => exact Or.inl (hcanceled _ _ fun p hp' => by rw [List.mem_singleton.1 hp']; exact hp press hpm)
  | down press hpm => exact Or.inl (hstarted press hpm)
  | pulse press hpm =>
    refine Or.inl fun event hev => ?_
    rcases List.mem_append.1 hev with hev | hev
    · exact hstarted press hpm event hev
    · exact hreleased press .pulse (fun ht => absurd ht (hn press hpm)) event hev
  | gesture press hpm action =>
    refine Or.inl fun event hev => ?_
    rw [List.mem_singleton.1 hev]
    exact isDeadlineEvent_eq_false (hp press hpm)
  | released press hpm releasedAt hc hf => exact Or.inl (hreleased press _ (hp press hpm))
  | fired press hpm releasedAt hc short long deadline hb hd =>
    by_cases ht : press.token ∈ due
    · refine Or.inr ⟨press, ⟨hpm, ht, releasedAt, short, long, deadline, hc, hb, hd⟩, ?_, fun event hev => ?_⟩
      · rintro ⟨q, hq, he⟩
        exact (Table.mem_erase.1 hq).2 (congrArg PressToken.key he)
      · rcases List.mem_cons.1 hev with rfl | hev
        · exact ⟨rfl, decide_eq_true ⟨rfl, ht⟩⟩
        · rw [List.mem_singleton.1 hev]
          exact ⟨rfl, decide_eq_true ⟨rfl, ht⟩⟩
    · refine Or.inl fun event hev => ?_
      rcases List.mem_cons.1 hev with rfl | hev
      · exact decide_eq_false fun h => ht h.2
      · rw [List.mem_singleton.1 hev]
        exact decide_eq_false fun h => ht h.2

/-! ## The deadlines that a pass fires -/

/-- **What firing one long press keeps, firing the selected ones keeps.** -/
theorem fire_induct (P : ButtonState → List ButtonRuntimeEvent → Prop) (now : Nat) :
    ∀ (tokens : List PressToken) (s : ButtonState) (events : List ButtonRuntimeEvent),
      (∀ s events p short long deadline, P s events → p ∈ s.active → p.token ∈ tokens →
        p.behavior = .longPressPending short long deadline → deadline ≤ now →
          P ⟨s.active.insert { p with behavior := .longPressFired }⟩
            (events ++ [.triggered { p with behavior := .longPressFired } long (.threshold now)])) →
      P s events → P (emitSelectedLongPresses s tokens now).2 (events ++ (emitSelectedLongPresses s tokens now).1)
  | [], s, events, _, h => by simpa [emitSelectedLongPresses, ButtonState.fireSelectedLongPresses] using h
  | token :: tokens, s, events, hstep, h => by
    have hrest : ∀ s events, P s events →
        P (emitSelectedLongPresses s tokens now).2 (events ++ (emitSelectedLongPresses s tokens now).1) :=
      fun s events => fire_induct P now tokens s events
        fun s events p short long deadline hP hp ht =>
          hstep s events p short long deadline hP hp (List.mem_cons_of_mem _ ht)
    simp only [emitSelectedLongPresses, ButtonState.fireSelectedLongPresses]
    split
    · exact hrest s events h
    · rename_i p hp
      obtain ⟨hg, ht⟩ := Option.filter_eq_some_iff.1 hp
      have ht : p.token = token := of_decide_eq_true ht
      split
      · exact hrest s events h
      · rename_i action p' hf
        obtain ⟨short, deadline, hb, hd, rfl⟩ := ActivePress.fireLong_eq_some.1 hf
        have hmem := (Table.mem_of_get? hg).1
        have hfire := hstep s events p short action deadline h hmem (ht ▸ List.mem_cons_self) hb hd
        simpa [emitSelectedLongPresses] using hrest _ _ hfire

theorem holds_fired {p : ActivePress} (hp : p ∈ s.active) (behavior : PressBehavior) (t : PressToken) :
    ButtonState.Holds ⟨s.active.insert { p with behavior := behavior }⟩ t ↔ s.Holds t := by
  constructor
  · rintro ⟨q, hq, rfl⟩
    rcases Table.mem_insert.1 hq with rfl | ⟨hq, -⟩
    · exact ⟨p, hp, rfl⟩
    · exact ⟨q, hq, rfl⟩
  · rintro ⟨q, hq, rfl⟩
    by_cases hk : q.key = p.key
    · rw [Table.eq_of_key hq hp hk]
      exact ⟨_, Table.mem_insert.2 (Or.inl rfl), rfl⟩
    · exact ⟨q, Table.mem_insert.2 (Or.inr ⟨hq, hk⟩), rfl⟩

/-- Firing the selected long presses only triggers active ones, which have then fired. -/
theorem emitSelectedLongPresses_events (s : ButtonState) (tokens : List PressToken) (now : Nat) :
    (∀ t, (emitSelectedLongPresses s tokens now).2.Holds t ↔ s.Holds t) ∧
      ∀ event ∈ (emitSelectedLongPresses s tokens now).1, event.mark = .mid ∧ event.press.token ∈ tokens ∧
        s.Holds event.press.token ∧ event.press.behavior = .longPressFired := by
  refine fire_induct (fun s' events => (∀ t, s'.Holds t ↔ s.Holds t) ∧ ∀ event ∈ events, event.mark = .mid ∧
    event.press.token ∈ tokens ∧ s.Holds event.press.token ∧ event.press.behavior = .longPressFired) now tokens s []
    ?_ ⟨fun _ => Iff.rfl, fun event hev => absurd hev List.not_mem_nil⟩
  rintro s' events p short long deadline ⟨hs, he⟩ hp ht hb hd
  refine ⟨fun t => (holds_fired hp _ t).trans (hs t), fun event hev => ?_⟩
  rcases List.mem_append.1 hev with hev | hev
  · exact he event hev
  · rw [List.mem_singleton.1 hev]
    exact ⟨rfl, ht, (hs _).1 ⟨p, hp, rfl⟩, rfl⟩

/-! ## Cancellations -/

theorem cancelAll_effect (s : Sys) (reason : CancelReason) : Effect s.state .wake 0 (s.cancelAll reason) :=
  .cancel _ _

theorem not_holds_cancelAll (s : Sys) (reason : CancelReason) (t : PressToken) : ¬ (s.cancelAll reason).2.Holds t := by
  rintro ⟨p, hp, -⟩
  cases (Table.mem_filter.1 hp).2

theorem syncEvents_effect (s : Sys) : Effect s.state .wake 0 s.syncEvents := by
  unfold Sys.syncEvents
  split
  · exact cancelAll_effect s .invalidated
  · exact .quiet

end Button
end OpenLogi
