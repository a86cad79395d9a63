import OpenLogi.Button.Lifecycle
/-!
# LongPress — a long press decides once

A decision is an action triggered by the press itself: at its threshold, by its release, or by the release that a pulse
implies.  While a long press is pending it has made none, once its threshold has fired it has made the long one, and
what ends it leaves it at most one.  The order in which a settle pass emits does not matter here.
-/
namespace OpenLogi
namespace Button

open OpenLogi.Core (Action)
open Lib (Table run run_inv)

/-! ## Decisions -/

def ButtonRuntimeEvent.decision (t : PressToken) : ButtonRuntimeEvent → Option (Action × TriggerCause)
  | .triggered press action cause => if press.token = t ∧ cause ≠ .gesture then some (action, cause) else none
  | _ => none

/-- The actions that a press has decided on, with what admitted each. -/
def decisions (t : PressToken) (events : List ButtonRuntimeEvent) : List (Action × TriggerCause) :=
  events.filterMap (·.decision t)

/-- What a long press may decide on: the short action at a release before the deadline or at a pulse, the long one once
the deadline has passed. -/
def Allowed (short long : Action) (deadline : Nat) : Action × TriggerCause → Prop
  | (action, .release releasedAt) => if releasedAt < deadline then action = short else action = long
  | (action, .threshold now) => deadline ≤ now ∧ action = long
  | (action, .pulse) => action = short
  | (_, .gesture) => False

@[simp] theorem decisions_append (t : PressToken) (xs ys : List ButtonRuntimeEvent) :
    decisions t (xs ++ ys) = decisions t xs ++ decisions t ys :=
  List.filterMap_append

variable {t : PressToken} {event : ButtonRuntimeEvent} {events : List ButtonRuntimeEvent} {cause : TriggerCause}
  {p : ActivePress} {command : ButtonCommand} {short long : Action} {deadline : Nat} {s s' : Sys}

theorem decision_eq_none (h : event.press.token ≠ t) :
    event.decision t = none := by
  cases event with
  | started press => rfl
  | ended press reason => rfl
  | triggered press action cause => exact if_neg fun h' => h h'.1

theorem decisions_eq_nil (h : marks t events = []) :
    decisions t events = [] :=
  List.filterMap_eq_nil_iff.2 fun event hev => decision_eq_none (marks_eq_nil.1 h event hev)

/-- What starts and ends presses decides nothing. -/
theorem decisions_of_mark (h : ∀ event ∈ events, event.mark ≠ .mid) :
    decisions t events = [] := by
  refine List.filterMap_eq_nil_iff.2 fun event hev => ?_
  cases event with
  | started press => rfl
  | ended press reason => rfl
  | triggered press action cause => exact absurd rfl (h _ hev)

theorem mark_emitCanceled {presses : List ActivePress} {reason : CancelReason}
    (h : event ∈ emitCanceled presses reason) : event.mark ≠ .mid := by
  obtain ⟨p, -, rfl⟩ := List.mem_map.1 h
  simp [ButtonRuntimeEvent.mark]

theorem mark_emitStarted {stale : Option ActivePress} {press : ActivePress} (h : event ∈ emitStarted stale press) :
    event.mark ≠ .mid := by
  rcases List.mem_append.1 h with h | h
  · exact mark_emitCanceled h
  · rw [List.mem_singleton.1 h]
    simp [ButtonRuntimeEvent.mark]

theorem decisions_emitReleased (p : ActivePress) (hc : cause ≠ .gesture) :
    decisions p.token (emitReleased p cause) = p.behavior.releaseAction.toList.map fun action => (action, cause) := by
  unfold emitReleased
  cases p.behavior.releaseAction with
  | none => rfl
  | some action => simp [decisions, ButtonRuntimeEvent.decision, hc]

/-- Events that cancel the press of `t`. -/
def Cancels (t : PressToken) (events : List ButtonRuntimeEvent) : Prop :=
  ∃ press reason, .ended press (.canceled reason) ∈ events ∧ press.token = t

/-- What a command decides for one press: nothing, or one thing that its behavior allows and that ends it. -/
structure Decides (p : ActivePress) (out : List ButtonRuntimeEvent × ButtonState) (d : Action × TriggerCause) :
    Prop where
  eq : decisions p.token out.1 = [d]
  allowed : ∀ short long deadline, p.behavior = .longPressPending short long deadline → Allowed short long deadline d
  unfired : p.behavior ≠ .longPressFired
  uncanceled : ¬ Cancels p.token out.1
  ended : ¬ out.2.Holds p.token

theorem not_cancels_emitReleased :
    ¬ Cancels t (emitReleased p cause) := by
  rintro ⟨q, reason, h, -⟩
  rcases List.mem_append.1 h with h | h
  · obtain ⟨action, -, he⟩ := List.mem_map.1 h
    cases he
  · cases List.mem_singleton.1 h

/-- What a release decides. -/
theorem decides_emitReleased {s' : ButtonState} (hc : cause ≠ .gesture) (hs : ¬ s'.Holds p.token)
    (ha : ∀ short long deadline, p.behavior = .longPressPending short long deadline →
      Allowed short long deadline (short, cause)) :
    decisions p.token (emitReleased p cause) = [] ∨ ∃ d, Decides p (emitReleased p cause, s') d := by
  have hd := decisions_emitReleased p hc
  cases hr : p.behavior.releaseAction with
  | none =>
    rw [hr] at hd
    exact Or.inl hd
  | some action =>
    rw [hr] at hd
    refine Or.inr ⟨(action, cause), hd, fun short long deadline hb => ?_, fun hb => ?_, not_cancels_emitReleased, hs⟩
    · rw [hb] at hr
      have haction : short = action := Option.some.inj hr
      exact haction ▸ ha short long deadline hb
    · rw [hb] at hr
      cases hr

theorem not_holds_erase (s : ButtonState) (p : ActivePress) : ¬ ButtonState.Holds ⟨s.active.erase p.key⟩ p.token := by
  rintro ⟨q, hq, he⟩
  exact (Table.mem_erase.1 hq).2 (congrArg PressToken.key he)

/-- **What a command decides for an active press.** -/
theorem Effect.decides {s : ButtonState} {generation : Nat} {out : List ButtonRuntimeEvent × ButtonState}
    (h : Effect s command generation out) (hp : p ∈ s.active) (hfresh : ∀ q ∈ command.presses, ¬ s.Holds q.token) :
    decisions p.token out.1 = [] ∨ ∃ d, Decides p out d := by
  have hnew : ∀ q ∈ command.presses, q.token ≠ p.token := fun q hq he => hfresh q hq ⟨p, hp, he.symm⟩
  cases h with
  | quiet | wheel => exact Or.inl rfl
  | cancel | pointer | stale => exact Or.inl (decisions_of_mark fun _ => mark_emitCanceled)
  | down press hpress => exact Or.inl (decisions_of_mark fun _ => mark_emitStarted)
  | pulse press hpress =>
    refine Or.inl ?_
    show decisions p.token (emitStarted _ press ++ emitReleased press .pulse) = []
    rw [decisions_append, decisions_of_mark fun _ => mark_emitStarted]
    refine decisions_eq_nil (marks_eq_nil.2 fun event hev he => hnew press hpress ?_)
    rw [← (marks_emitReleased press .pulse).1 event hev, he]
  | gesture press hpress action =>
    refine Or.inl ?_
    simp [decisions, ButtonRuntimeEvent.decision]
  | released press hpress releasedAt hc hf =>
    by_cases he : press.token = p.token
    · cases ButtonState.eq_of_token hpress hp he
      refine decides_emitReleased (by simp) (not_holds_erase s p) fun short long deadline hb => ?_
      have hlt : releasedAt < deadline := by
        refine Nat.lt_of_not_le fun hle => ?_
        rw [ActivePress.fireLong_eq_some.2 ⟨short, deadline, hb, hle, rfl⟩] at hf
        cases hf
      simp [Allowed, hlt]
    · refine Or.inl (decisions_eq_nil (marks_eq_nil.2 fun event hev h' => he ?_))
      rw [← (marks_emitReleased press (.release releasedAt)).1 event hev, h']
  | fired press hpress releasedAt hc short long deadline hb hd =>
    by_cases he : press.token = p.token
    · cases ButtonState.eq_of_token hpress hp he
      refine Or.inr ⟨(long, .release releasedAt), ?_, fun short' long' deadline' hb' => ?_, fun hb' => ?_, ?_,
        not_holds_erase s p⟩
      · simp [decisions, ButtonRuntimeEvent.decision]
      · rw [hb] at hb'
        cases hb'
        simp [Allowed, Nat.not_lt.2 hd]
      · rw [hb] at hb'
        cases hb'
      · rintro ⟨q, reason, hq, -⟩
        simp at hq
    · refine Or.inl ?_
      simp [decisions, ButtonRuntimeEvent.decision, he]

/-- **What a command decides for a press that it starts.** -/
theorem Effect.decides_new {s : ButtonState} {generation : Nat} {out : List ButtonRuntimeEvent × ButtonState}
    (h : Effect s command generation out) (hp : .started p ∈ out.1)
    (hfresh : ∀ q ∈ command.presses, ¬ s.Holds q.token) :
    p ∈ command.presses ∧ ¬ Cancels p.token out.1 ∧
      (decisions p.token out.1 = [] ∨ ∃ d, Decides p out d) := by
  have hstart : ∀ stale : Option ActivePress, ∀ q ∈ command.presses, .started p ∈ emitStarted stale q → p = q := by
    intro stale q _ hev
    rcases List.mem_append.1 hev with hev | hev
    · obtain ⟨r, -, he⟩ := List.mem_map.1 hev
      cases he
    · cases List.mem_singleton.1 hev
      rfl
  have hcanceled : ∀ q ∈ command.presses, ¬ Cancels q.token (emitStarted (s.press q).1 q) := by
    rintro q hq ⟨r, reason, hr, he⟩
    rcases List.mem_append.1 hr with hr | hr
    · obtain ⟨r', hr', heq⟩ := List.mem_map.1 hr
      cases heq
      exact hfresh q hq ⟨r, (Table.mem_of_get? (Option.mem_toList.1 hr')).1, he⟩
    · cases List.mem_singleton.1 hr
  cases h with
  | quiet | wheel => cases hp
  | cancel | pointer | stale =>
    obtain ⟨q, -, he⟩ := List.mem_map.1 hp
    cases he
  | gesture press hpress action => simp at hp
  | released press hpress releasedAt hc hf =>
    rcases List.mem_append.1 hp with hp | hp
    · obtain ⟨action, -, he⟩ := List.mem_map.1 hp
      cases he
    · cases List.mem_singleton.1 hp
  | fired press hpress releasedAt hc short long deadline hb hd => simp at hp
  | down press hpress =>
    cases hstart _ press hpress hp
    exact ⟨hpress, hcanceled _ hpress, Or.inl (decisions_of_mark fun _ => mark_emitStarted)⟩
  | pulse press hpress =>
    have he : p = press := by
      rcases List.mem_append.1 hp with hp | hp
      · exact hstart _ press hpress hp
      · rcases List.mem_append.1 hp with hp | hp
        · obtain ⟨action, -, he⟩ := List.mem_map.1 hp
          cases he
        · cases List.mem_singleton.1 hp
    cases he
    have hun : ¬ Cancels p.token (emitStarted (s.press p).1 p ++ emitReleased p .pulse) := by
      rintro ⟨q, reason, hq, hqt⟩
      rcases List.mem_append.1 hq with hq | hq
      · exact hcanceled p hpress ⟨q, reason, hq, hqt⟩
      · exact not_cancels_emitReleased ⟨q, reason, hq, hqt⟩
    have hdec : decisions p.token (emitStarted (s.press p).1 p ++ emitReleased p .pulse) =
        decisions p.token (emitReleased p .pulse) := by
      rw [decisions_append, decisions_of_mark fun _ => mark_emitStarted]
      rfl
    refine ⟨hpress, hun, ?_⟩
    have hpulse : decisions p.token (emitReleased p .pulse) = [] ∨
        ∃ d, Decides p (emitReleased p .pulse, ⟨(s.press p).2.active.erase p.key⟩) d :=
      decides_emitReleased (by simp) (not_holds_erase _ p) fun _ _ _ _ => rfl
    rcases hpulse with hnil | ⟨d, hd⟩
    · exact Or.inl (hdec.trans hnil)
    · exact Or.inr ⟨d, hdec.trans hd.eq, hd.allowed, hd.unfired, hun, hd.ended⟩

/-- What firing the selected long presses decides for an active press: the long action, once, if it was due. -/
theorem emitSelectedLongPresses_decides (s : ButtonState) (tokens : List PressToken) (now : Nat) :
    (∀ q ∈ (emitSelectedLongPresses s tokens now).2.active, ∃ p ∈ s.active, p.token = q.token) ∧
      ∀ p ∈ s.active, (p ∈ (emitSelectedLongPresses s tokens now).2.active ∧
          decisions p.token (emitSelectedLongPresses s tokens now).1 = []) ∨
        ∃ short long deadline, p.behavior = .longPressPending short long deadline ∧ deadline ≤ now ∧
          { p with behavior := .longPressFired } ∈ (emitSelectedLongPresses s tokens now).2.active ∧
          decisions p.token (emitSelectedLongPresses s tokens now).1 = [(long, .threshold now)] := by
  refine fire_induct (fun s' events => (∀ q ∈ s'.active, ∃ p ∈ s.active, p.token = q.token) ∧
    ∀ p ∈ s.active, (p ∈ s'.active ∧ decisions p.token events = []) ∨
      ∃ short long deadline, p.behavior = .longPressPending short long deadline ∧ deadline ≤ now ∧
        { p with behavior := .longPressFired } ∈ s'.active ∧ decisions p.token events = [(long, .threshold now)])
    now tokens s [] ?_ ⟨fun q hq => ⟨q, hq, rfl⟩, fun p hp => Or.inl ⟨hp, rfl⟩⟩
  rintro s' events p' short long deadline ⟨hold, hdec⟩ hp' ht hb hd
  refine ⟨fun q hq => ?_, fun p hp => ?_⟩
  · rcases Table.mem_insert.1 hq with rfl | ⟨hq, -⟩
    · exact hold p' hp'
    · exact hold q hq
  · by_cases he : p'.token = p.token
    · rcases hdec p hp with ⟨hmem, hnil⟩ | ⟨_, _, _, -, -, hmem, -⟩
      · cases ButtonState.eq_of_token hp' hmem he
        refine Or.inr ⟨short, long, deadline, hb, hd, Table.mem_insert.2 (Or.inl rfl), ?_⟩
        rw [decisions_append, hnil]
        simp [decisions, ButtonRuntimeEvent.decision]
      · rw [ButtonState.eq_of_token hp' hmem he] at hb
        cases hb
    · have hkey : ∀ q ∈ s'.active, q.token = p.token → q.key ≠ p'.key := fun q hq hqt hk =>
        he ((congrArg ActivePress.token (Table.eq_of_key hq hp' hk)).symm.trans hqt)
      have hnone :
          decisions p.token [.triggered { p' with behavior := .longPressFired } long (.threshold now)] = [] := by
        simp [decisions, ButtonRuntimeEvent.decision, he]
      rw [decisions_append, hnone, List.append_nil]
      rcases hdec p hp with ⟨hmem, hnil⟩ | ⟨short', long', deadline', hb', hd', hmem, heq⟩
      · exact Or.inl ⟨Table.mem_insert.2 (Or.inr ⟨hmem, hkey p hmem rfl⟩), hnil⟩
      · exact Or.inr ⟨short', long', deadline', hb', hd', Table.mem_insert.2 (Or.inr ⟨hmem, hkey _ hmem rfl⟩), heq⟩

/-! ## The invariant -/

theorem decisions_perm {xs ys : List ButtonRuntimeEvent} (h : xs.Perm ys) :
    (decisions t xs).Perm (decisions t ys) :=
  h.filterMap _

/-- What holds of a long press that has started. -/
structure Decided (p : ActivePress) (short long : Action) (deadline : Nat) (s : Sys) : Prop where
  verdict : decisions p.token s.view = [] ∨ ∃ d, decisions p.token s.view = [d] ∧ Allowed short long deadline d
  active : ∀ q ∈ s.state.active, q.token = p.token →
    (q.behavior = p.behavior ∧ decisions p.token s.view = []) ∨
      (q.behavior = .longPressFired ∧ decisions p.token s.emitted ≠ [])
  canceled : ∀ pre q reason post, s.emitted = pre ++ .ended q (.canceled reason) :: post → q.token = p.token →
    decisions p.token s.view = [] ∨ decisions p.token pre ≠ []
  deferred : Cancels p.token s.pc.deferred → decisions p.token s.view = [] ∨ decisions p.token s.emitted ≠ []

theorem Decided.frame (h : Decided p short long deadline s) (hf : Frame s s') : Decided p short long deadline s' where
  verdict := by rw [hf.view]; exact h.verdict
  active := by rw [hf.view, hf.emitted]; exact fun q hq => h.active q ((hf.active q).1 hq)
  canceled := by rw [hf.view, hf.emitted]; exact h.canceled
  deferred := by rw [hf.view, hf.emitted, hf.deferred]; exact h.deferred

theorem Output.emitted_prefix (h : Output s s' events) :
    s.emitted <+: s'.emitted := by
  cases h with
  | putOff hem | enter hem => rw [hem]
  | emit hem => rw [hem]; exact List.prefix_append _ _

theorem decisions_ne_nil_of_prefix {xs ys : List ButtonRuntimeEvent} (h : xs <+: ys) (hx : decisions t xs ≠ []) :
    decisions t ys ≠ [] := by
  obtain ⟨zs, rfl⟩ := h
  rw [decisions_append]
  exact fun hnil => hx (List.append_eq_nil_iff.1 hnil).1

/-- A press keeps to its decision: it decides only if it has not, and a cancellation comes before no decision. -/
theorem Decided.output (h : Decided p short long deadline s) (hout : Output s s' events)
    (hverdict : decisions p.token events = [] ∨
      decisions p.token s.view = [] ∧ ∃ d, decisions p.token events = [d] ∧ Allowed short long deadline d)
    (hactive : ∀ q ∈ s'.state.active, q.token = p.token →
      (q.behavior = p.behavior ∧ decisions p.token s.view = [] ∧ decisions p.token events = []) ∨
        (q.behavior = .longPressFired ∧ decisions p.token s'.emitted ≠ []))
    (hover : Cancels p.token s.view → decisions p.token events = []) (hcancels : Cancels p.token events →
      (decisions p.token s.view = [] ∧ decisions p.token events = []) ∨ decisions p.token s.emitted ≠ []) :
    Decided p short long deadline s' := by
  have hview : (decisions p.token s'.view).Perm (decisions p.token s.view ++ decisions p.token events) := by
    rw [← decisions_append]
    exact decisions_perm hout.view_perm
  have hnil : decisions p.token s.view = [] → decisions p.token events = [] → decisions p.token s'.view = [] := by
    intro hv he
    rw [hv, he] at hview
    exact hview.eq_nil
  have hcanceled : Cancels p.token (s.pc.deferred ++ events) →
      decisions p.token s'.view = [] ∨ decisions p.token s.emitted ≠ [] := by
    rintro ⟨q, reason, hq, ht⟩
    rcases List.mem_append.1 hq with hq | hq
    · refine (h.deferred ⟨q, reason, hq, ht⟩).imp_left fun hv => hnil hv (hover ⟨q, reason, ?_, ht⟩)
      exact List.mem_append_right _ (mem_emitSettledEvents.2 hq)
    · exact (hcancels ⟨q, reason, hq, ht⟩).imp_left fun hv => hnil hv.1 hv.2
  refine ⟨?_, fun q hq ht => ?_, fun pre q reason post he ht => ?_, fun hc => ?_⟩
  · rcases hverdict with he | ⟨hv, d, he, ha⟩
    · rw [he, List.append_nil] at hview
      rcases h.verdict with hv | ⟨d, hv, ha⟩
      · exact Or.inl (hnil hv he)
      · exact Or.inr ⟨d, List.perm_singleton.1 (hv ▸ hview), ha⟩
    · rw [hv, he] at hview
      exact Or.inr ⟨d, List.perm_singleton.1 hview, ha⟩
  · exact (hactive q hq ht).imp_left fun hb => ⟨hb.1, hnil hb.2.1 hb.2.2⟩
  · -- the cancellation was emitted before, or is emitted now after all that was
    have hold : ∀ post', s.emitted = pre ++ .ended q (.canceled reason) :: post' →
        decisions p.token s'.view = [] ∨ decisions p.token pre ≠ [] := by
      intro post' he'
      refine (h.canceled pre q reason post' he' ht).imp_left fun hv => hnil hv (hover ⟨q, reason, ?_, ht⟩)
      rw [Sys.view, he']
      simp
    cases hout with
    | putOff hem | enter hem => exact hold post (hem ▸ he)
    | emit hem =>
      rw [hem] at he
      rcases List.append_eq_append_iff.1 he with ⟨mid, hpre, hmid⟩ | ⟨mid, hemit, hmid⟩
      · have hmem : .ended q (.canceled reason) ∈ emitSettledEvents (s.pc.deferred ++ events) s.pc.due := by
          rw [hmid]
          simp
        refine (hcanceled ⟨q, reason, mem_emitSettledEvents.1 hmem, ht⟩).imp_right fun hd => ?_
        exact decisions_ne_nil_of_prefix ⟨mid, hpre.symm⟩ hd
      · cases mid with
        | nil =>
          have hmem : .ended q (.canceled reason) ∈ emitSettledEvents (s.pc.deferred ++ events) s.pc.due := by
            rw [← List.nil_append (emitSettledEvents _ _), ← hmid]
            exact List.mem_cons_self
          refine (hcanceled ⟨q, reason, mem_emitSettledEvents.1 hmem, ht⟩).imp_right fun hd => ?_
          rwa [hemit, List.append_nil] at hd
        | cons event mid =>
          obtain ⟨rfl, -⟩ := List.cons.inj hmid
          exact hold mid hemit
  · cases hout with
    | putOff hem hdue hdef hpc =>
      rw [hdef] at hc
      rw [hem]
      exact hcanceled hc
    | enter hem hv hdue hdef hpc =>
      rw [hdef] at hc
      rw [hem]
      rw [hv] at hcanceled
      exact hcanceled hc
    | emit hem hdue hdef hpc =>
      rw [hdef] at hc
      obtain ⟨q, reason, hq, -⟩ := hc
      cases hq

theorem Cancels.not_holds (h : Known s) (hc : Cancels t s.view) : ¬ s.state.Holds t := by
  obtain ⟨q, reason, hq, rfl⟩ := hc
  exact h.ended _ hq rfl

theorem Decided.move {e : Ev} (hk : Known s) (h : Decided p short long deadline s)
    (hb : p.behavior = .longPressPending short long deadline) (hp : .started p ∈ s.view) (hm : Move s e s') :
    Decided p short long deadline s' := by
  have hseen : marks p.token s.view ≠ [] := fun hnil => marks_eq_nil.1 hnil _ hp rfl
  cases hm with
  | accept press hf => exact h.frame hf
  | keep gone hf => exact h.frame hf
  | effect command generation out gone heff hs hout hn hu hlate =>
    have hfresh := hk.fresh hu
    have hnew : ∀ q ∈ command.presses, ¬ s.state.Holds q.token := fun q hq => hk.not_holds (hfresh q hq)
    have hnot : ∀ q ∈ command.presses, q.token ≠ p.token := fun q hq he => hseen (he ▸ hfresh q hq)
    obtain ⟨born, hborn, hbal⟩ := heff.balanced hnew
    have hunborn : p.token ∉ born := by
      intro hb'
      obtain ⟨q, hq, he⟩ := hborn _ hb'
      exact hnot q hq he
    -- nothing of the press once it is not active
    have hquiet : ¬ s.state.Holds p.token → marks p.token out.1 = [] ∧ ¬ out.2.Holds p.token :=
      hbal.rest _ hunborn
    have hheld : ∀ q ∈ s'.state.active, q.token = p.token → ∃ r ∈ s.state.active, r.token = p.token ∧
        (q.behavior = r.behavior ∨ q.behavior = r.behavior.wheelMoved) := by
      intro q hq ht
      rcases heff.survivor (hs ▸ hq) with ⟨r, hr, hrt, hbeh⟩ | hq'
      · exact ⟨r, hr, hrt.trans ht, hbeh⟩
      · exact absurd ht (hnot q hq')
    have hdecides : ∀ r ∈ s.state.active, r.token = p.token →
        decisions p.token out.1 = [] ∨
          (r.behavior = p.behavior ∧ decisions p.token s.view = [] ∧ ∃ d, Decides r out d) := by
      intro r hr ht
      rcases heff.decides hr hnew with hnil | ⟨d, hd⟩
      · exact Or.inl (ht ▸ hnil)
      · rcases h.active r hr ht with ⟨hbeh, hv⟩ | ⟨hbeh, -⟩
        · exact Or.inr ⟨hbeh, hv, d, hd⟩
        · exact absurd hbeh hd.unfired
    refine h.output hout ?_ (fun q hq ht => ?_) (fun hc => ?_) fun hc => ?_
    · by_cases hl : s.state.Holds p.token
      · obtain ⟨r, hr, ht⟩ := hl
        rcases hdecides r hr ht with hnil | ⟨hbeh, hv, d, hd⟩
        · exact Or.inl hnil
        · exact Or.inr ⟨hv, d, ht ▸ hd.eq, hd.allowed short long deadline (hbeh.trans hb)⟩
      · exact Or.inl (decisions_eq_nil (hquiet hl).1)
    · obtain ⟨r, hr, hrt, hbeh⟩ := hheld q hq ht
      rcases h.active r hr hrt with ⟨hrb, hv⟩ | ⟨hrb, hne⟩
      · refine Or.inl ⟨?_, hv, ?_⟩
        · rcases hbeh with hbeh | hbeh <;> rw [hbeh, hrb, hb]
          rfl
        · rcases hdecides r hr hrt with hnil | ⟨-, -, d, hd⟩
          · exact hnil
          · exact absurd ⟨q, hs ▸ hq, ht.trans hrt.symm⟩ hd.ended
      · refine Or.inr ⟨?_, decisions_ne_nil_of_prefix hout.emitted_prefix hne⟩
        rcases hbeh with hbeh | hbeh <;> rw [hbeh, hrb]
        rfl
    · exact decisions_eq_nil (hquiet (hc.not_holds hk)).1
    · by_cases hl : s.state.Holds p.token
      · obtain ⟨r, hr, ht⟩ := hl
        rcases h.active r hr ht with ⟨-, hv⟩ | ⟨-, hne⟩
        · rcases hdecides r hr ht with hnil | ⟨-, -, d, hd⟩
          · exact Or.inl ⟨hv, hnil⟩
          · exact absurd (ht ▸ hc) hd.uncanceled
        · exact Or.inr hne
      · obtain ⟨q, reason, hq, ht⟩ := hc
        exact absurd ht (marks_eq_nil.1 (hquiet hl).1 _ hq)
  | fire hs hem hdue hdef hpc hn hu =>
    obtain ⟨hold, hdec⟩ := emitSelectedLongPresses_decides s.state s.pc.due s.clock
    obtain ⟨hholds, hev⟩ := emitSelectedLongPresses_events s.state s.pc.due s.clock
    have hout : Output s s' (emitSelectedLongPresses s.state s.pc.due s.clock).1 :=
      .emit hem hdue hdef fun h => absurd h hpc
    have hquiet : ¬ s.state.Holds p.token →
        decisions p.token (emitSelectedLongPresses s.state s.pc.due s.clock).1 = [] := fun hl =>
      decisions_eq_nil (marks_eq_nil.2 fun event h' he => hl (he ▸ (hev event h').2.2.1))
    refine h.output hout ?_ (fun q hq ht => ?_) (fun hc => hquiet (hc.not_holds hk)) fun hc => ?_
    · by_cases hl : s.state.Holds p.token
      · obtain ⟨r, hr, ht⟩ := hl
        rcases hdec r hr with ⟨-, hnil⟩ | ⟨short', long', deadline', hrb, hle, -, heq⟩
        · exact Or.inl (ht ▸ hnil)
        · rcases h.active r hr ht with ⟨hbeh, hv⟩ | ⟨hbeh, -⟩
          · rw [hbeh, hb] at hrb
            cases hrb
            exact Or.inr ⟨hv, (_, .threshold s.clock), ht ▸ heq, hle, rfl⟩
          · rw [hbeh] at hrb
            cases hrb
      · exact Or.inl (hquiet hl)
    · rw [hs] at hq
      obtain ⟨r, hr, hrt⟩ := hold q hq
      have hrp := hrt.trans ht
      rcases hdec r hr with ⟨hmem, hnil⟩ | ⟨short', long', deadline', hrb, hle, hmem, heq⟩
      · cases ButtonState.eq_of_token hq hmem hrt.symm
        rcases h.active q hr hrp with ⟨hbeh, hv⟩ | ⟨hbeh, hne⟩
        · exact Or.inl ⟨hbeh, hv, hrp ▸ hnil⟩
        · exact Or.inr ⟨hbeh, decisions_ne_nil_of_prefix hout.emitted_prefix hne⟩
      · rw [ButtonState.eq_of_token hq hmem hrt.symm]
        refine Or.inr ⟨rfl, fun hnil => ?_⟩
        have hempty :
            decisions p.token (s.pc.deferred ++ (emitSelectedLongPresses s.state s.pc.due s.clock).1) = [] := by
          rw [hem, decisions_append, List.append_eq_nil_iff] at hnil
          exact (hnil.2 ▸ decisions_perm (emitSettledEvents_perm _ _)).nil_eq.symm
        rw [decisions_append, List.append_eq_nil_iff, ← hrp, heq] at hempty
        cases hempty.2
    · obtain ⟨q, reason, hq, -⟩ := hc
      cases (hev _ hq).1

/-- A press that has left no event has decided nothing. -/
theorem Decided.fresh (hk : Known s) (hm : marks p.token s.view = []) : Decided p short long deadline s := by
  have hnone : ∀ event ∈ s.view, event.press.token ≠ p.token := marks_eq_nil.1 hm
  refine ⟨Or.inl (decisions_eq_nil hm), fun q hq ht => absurd ⟨q, hq, ht⟩ (hk.not_holds hm), ?_, ?_⟩
  · intro pre q reason post he ht
    refine absurd ht (hnone (.ended q (.canceled reason)) ?_)
    rw [Sys.view, he]
    simp
  · rintro ⟨q, reason, hq, ht⟩
    exact absurd ht (hnone (.ended q (.canceled reason)) (List.mem_append_right _ (mem_emitSettledEvents.2 hq)))

theorem ButtonCommand.presses_unique {q : ActivePress} (hp : p ∈ command.presses) (hq : q ∈ command.presses) :
    p = q := by
  unfold ButtonCommand.presses at hp hq
  split at hp
  · rw [List.mem_singleton.1 hp, List.mem_singleton.1 hq]
  · rw [List.mem_singleton.1 hp, List.mem_singleton.1 hq]
  · cases hp

/-- A long press decides at most once in the step that starts it. -/
theorem Decided.start {e : Ev} (hk : Known s) (hb : p.behavior = .longPressPending short long deadline)
    (hold : .started p ∉ s.view) (hp : .started p ∈ s'.view) (hm : Move s e s') : Decided p short long deadline s' := by
  cases hm with
  | accept press hf => exact absurd (hf.view ▸ hp) hold
  | keep gone hf => exact absurd (hf.view ▸ hp) hold
  | effect command generation out gone heff hs hout hn hu hlate =>
    have hev : .started p ∈ out.1 := (List.mem_append.1 (hout.view_perm.mem_iff.1 hp)).resolve_left hold
    have hfresh := hk.fresh hu
    obtain ⟨hmem, hcanceled, hdec⟩ := heff.decides_new hev fun q hq => hk.not_holds (hfresh q hq)
    have hm := hfresh p hmem
    refine (Decided.fresh hk hm).output hout ?_ (fun q hq ht => Or.inl ?_) (fun hc => ?_) fun hc => absurd hc hcanceled
    · exact hdec.imp_right fun ⟨d, hd⟩ => ⟨decisions_eq_nil hm, d, hd.eq, hd.allowed short long deadline hb⟩
    · have hqp : q = p := by
        rcases heff.survivor (hs ▸ hq) with ⟨r, hr, hrt, -⟩ | hq'
        · exact absurd ⟨r, hr, hrt.trans ht⟩ (hk.not_holds hm)
        · exact ButtonCommand.presses_unique hq' hmem
      refine ⟨congrArg _ hqp, decisions_eq_nil hm, ?_⟩
      rcases hdec with hnil | ⟨d, hd⟩
      · exact hnil
      · exact absurd ⟨q, hs ▸ hq, ht⟩ hd.ended
    · obtain ⟨q, reason, hq, ht⟩ := hc
      exact absurd ht (marks_eq_nil.1 hm _ hq)
  | fire hs hem hdue hdef hpc hn hu =>
    have hout : Output s s' (emitSelectedLongPresses s.state s.pc.due s.clock).1 :=
      .emit hem hdue hdef fun h => absurd h hpc
    have hev := (List.mem_append.1 (hout.view_perm.mem_iff.1 hp)).resolve_left hold
    cases ((emitSelectedLongPresses_events s.state s.pc.due s.clock).2 _ hev).1

/-- **Every long press that has started keeps to its decision.** -/
theorem decided_run {events : List Ev} (hr : run step {} events = some s)
    (hb : p.behavior = .longPressPending short long deadline) (hp : .started p ∈ s.view) :
    Decided p short long deadline s := by
  refine (run_inv (fun s => Known s ∧ (.started p ∈ s.view → Decided p short long deadline s))
    (fun s e s' h hs => ⟨h.1.move (step_move hs), fun hp => ?_⟩) events {} s
    ⟨known_init, fun h => absurd h List.not_mem_nil⟩ hr).2 hp
  by_cases hold : .started p ∈ s.view
  · exact (h.2 hold).move h.1 hb hold (step_move hs)
  · exact .start h.1 hb hold hp (step_move hs)

/-- **A long press decides once**: of its own it triggers at most one of its actions; the short one at a release before
the deadline or at a pulse, the long one once the deadline has passed; and nothing if it is canceled before. -/
theorem long_press_decides_once (events : List Ev) (s : Sys) (hr : run step {} events = some s) (p : ActivePress)
    (short long : Action) (deadline : Nat) (hb : p.behavior = .longPressPending short long deadline)
    (hp : .started p ∈ s.emitted) :
    (decisions p.token s.emitted).length ≤ 1 ∧
      (∀ d ∈ decisions p.token s.emitted, Allowed short long deadline d) ∧
      ∀ pre q reason post, s.emitted = pre ++ .ended q (.canceled reason) :: post → q.token = p.token →
        decisions p.token pre = [] → decisions p.token s.emitted = [] := by
  have h := decided_run hr hb (List.mem_append_left _ hp)
  have hsub : decisions p.token s.emitted <+: decisions p.token s.view :=
    ⟨_, (decisions_append p.token s.emitted _).symm⟩
  refine ⟨?_, fun d hd => ?_, fun pre q reason post he ht hnil => ?_⟩
  · refine hsub.length_le.trans ?_
    rcases h.verdict with hv | ⟨d, hv, -⟩ <;> simp [hv]
  · rcases h.verdict with hv | ⟨d', hv, ha⟩
    · rw [hv, List.prefix_nil] at hsub
      rw [hsub] at hd
      cases hd
    · have hmem := hsub.subset hd
      rw [hv, List.mem_singleton] at hmem
      exact hmem ▸ ha
  · have hv := (h.canceled pre q reason post he ht).resolve_right fun hne => hne hnil
    rwa [hv, List.prefix_nil] at hsub

/-! ## A pulse, and a gesture of a long press -/

def longBack : ActivePress := ⟨backPress, .longPressPending .copy .paste 500000000, .keyboard⟩

theorem late_release_decides_once : ∃ s, run step {} (heldPast [] 12) = some s ∧
    (decisions longBack.token s.emitted).length ≤ 1 ∧
      (∀ d ∈ decisions longBack.token s.emitted, Allowed .copy .paste 500000000 d) ∧
      ∀ pre q reason post, s.emitted = pre ++ .ended q (.canceled reason) :: post → q.token = longBack.token →
        decisions longBack.token pre = [] → decisions longBack.token s.emitted = [] := by
  have hrun : ((run step {} (heldPast [] 12)).map fun s => s.emitted.head?) = some (some (.started longBack)) := by
    decide
  obtain ⟨s, hs, hp⟩ := Option.map_eq_some_iff.1 hrun
  exact ⟨s, hs, long_press_decides_once _ s hs longBack .copy .paste 500000000 rfl (List.mem_of_head? hp)⟩

/-- A long press that comes as one pulse. -/
def pulsed : List Ev :=
  [.work, .work, .call (.pulse backKey (some (.longPress .copy .paste)) .keyboard 0), .send 0] ++ List.replicate 3 .work

/-- A long press of which a gesture triggers the short action before its threshold. -/
def gestured : List Ev :=
  [.work, .work, .call (.down backKey (some (.longPress .copy .paste)) .keyboard 0), .send 0] ++
    List.replicate 7 .work ++ [.call (.triggerWhilePressed backPress .copy), .send 0] ++ List.replicate 7 .work ++
    [.tick 500000000, .timeout] ++ List.replicate 7 .work

/-- A pulse triggers the short action without any release, and a gesture may trigger it beside the long one. -/
theorem short_without_release :
    (∃ s, run step {} pulsed = some s ∧ .started longBack ∈ s.emitted ∧ .triggered longBack .copy .pulse ∈ s.emitted ∧
      ∀ key now, .call (.up key now) ∉ pulsed) ∧
    ∃ s, run step {} gestured = some s ∧ .started longBack ∈ s.emitted ∧
      .triggered longBack .copy .gesture ∈ s.emitted ∧
      .triggered { longBack with behavior := .longPressFired } .paste (.threshold 500000000) ∈ s.emitted := by
  have hpulse : (run step {} pulsed).map (·.emitted) =
      some [.started longBack, .triggered longBack .copy .pulse, .ended longBack .released] := by decide
  have hgesture : (run step {} gestured).map (·.emitted) = some [.started longBack, .triggered longBack .copy .gesture,
      .triggered { longBack with behavior := .longPressFired } .paste (.threshold 500000000)] := by decide
  obtain ⟨s, hs, he⟩ := Option.map_eq_some_iff.1 hpulse
  obtain ⟨s', hs', he'⟩ := Option.map_eq_some_iff.1 hgesture
  refine ⟨⟨s, hs, ?_, ?_, fun key now => ?_⟩, s', hs', ?_, ?_, ?_⟩
  · simp [he]
  · simp [he]
  · simp [pulsed]
  · simp [he']
  · simp [he']
  · simp [he']

end Button
end OpenLogi
