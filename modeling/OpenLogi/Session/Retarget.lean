import OpenLogi.Session.Steady
/-!
# Retarget — the divert set of a keyboard follows its owner

At every moment of a keyboard session each control that may be diverted is owed a restore once, and so is the G-key row.
After a retarget that succeeds the controls that are diverted, dispatched and owed a restore are those that are wanted,
divertable and not reserved, and no control that stays was written.
-/
namespace OpenLogi
namespace Session

open OpenLogi.Core Lib

/-- The button that a wanted control dispatches as, if a session may divert it. -/
def target (m : KeyboardModel) (wanted : KeyboardWanted) (cid : UInt16) : Option ButtonId :=
  if canDivert cid m.table then wanted.controls[cid]? else none

/-- The session is where its owner wants it. -/
structure Follows (m : KeyboardModel) (found : Firmware) (gRowFound : Bool) (k : KeyRun) : Prop where
  dispatched : ∀ cid, k.session.armed.keys.buttons[cid]? = target m k.wanted cid
  owed : ∀ cid, cid ∈ (k.session.armed.intoPending m).cids ↔ (target m k.wanted cid).isSome
  diverted : ∀ cid, (k.session.fw cid).diverted = true ↔
    (target m k.wanted cid).isSome ∨ cid ∉ k.session.writes ∧ (found cid).diverted = true
  /-- No control in both the old and the new set was written. -/
  kept : ∃ writes, k.session.writes = writes ++ k.before ∧
    ∀ cid ∈ writes, ¬((target m k.previous cid).isSome ∧ (target m k.wanted cid).isSome)
  gRow : k.session.gRow = true ↔
    k.session.gRowWritten = false ∧ gRowFound = true ∨ (k.session.armed.intoPending m).gKeys.isSome

section

variable {m : KeyboardModel} {found : Firmware} {gRowFound : Bool} {kept : UInt16 → Prop} {before : List UInt16}
  {spec : UInt16 → Option ButtonId} {s : KeySession}

/-! ## The whole change -/

/-- What is dispatched once the controls before `rest` are handed back. -/
def handedBack (spec : UInt16 → Option ButtonId) (wanted : ButtonMap UInt16) (rest : List UInt16) (c : UInt16) :
    Option ButtonId :=
  if c ∈ wanted ∨ c ∈ rest then spec c else none

/-- What is dispatched once the controls before `rest` are diverted. -/
def divertedTo (m : KeyboardModel) (old : ButtonMap UInt16) (wanted : KeyboardWanted)
    (rest : List (UInt16 × ButtonId)) (c : UInt16) : Option ButtonId :=
  if c ∈ rest.map Prod.fst then none
  else if c ∈ old then if c ∈ wanted.controls then old[c]? else none
  else target m wanted c

theorem getElem?_keepButtons (wanted : ButtonMap UInt16) : ∀ (keep : List (UInt16 × ButtonId))
    (buttons : ButtonMap UInt16), (∀ p ∈ keep, wanted[p.1]? = some p.2) → ∀ c,
      (KeySession.keepButtons buttons keep)[c]? = if c ∈ keep.map Prod.fst then wanted[c]? else buttons[c]?
  | [], _, _, c => by simp [KeySession.keepButtons]
  | (cid, button) :: keep, buttons, h, c => by
    have hrest := getElem?_keepButtons wanted keep (buttons.insert cid button) (fun p hp => h p (by simp [hp])) c
    have hcid : wanted[cid]? = some button := h (cid, button) (by simp)
    simp only [KeySession.keepButtons, List.foldl_cons, List.map_cons, List.mem_cons] at hrest ⊢
    rw [hrest, Std.ExtTreeMap.getElem?_insert]
    by_cases hc : c = cid
    · simp [hc, hcid]
    · have hne : ¬compare cid c = .eq := fun h => hc (Std.LawfulEqCmp.compare_eq_iff_eq.1 h).symm
      simp only [if_neg hne, hc, false_or]

section

variable {old : ButtonMap UInt16} {wanted : KeyboardWanted}

theorem mem_handBack {c : UInt16} :
    c ∈ (DivertChange.between old wanted.controls m.table).handBack ↔ c ∈ old ∧ c ∉ wanted.controls := by
  simp [DivertChange.between]

variable {p : UInt16 × ButtonId}

theorem mem_divert : p ∈ (DivertChange.between old wanted.controls m.table).divert ↔
    wanted.controls[p.1]? = some p.2 ∧ p.1 ∉ old ∧ canDivert p.1 m.table = true := by
  obtain ⟨cid, button⟩ := p
  simp [DivertChange.between, Std.ExtTreeMap.mem_toList_iff_getElem?_eq_some]

theorem mem_keep : p ∈ (DivertChange.between old wanted.controls m.table).keep ↔
    wanted.controls[p.1]? = some p.2 ∧ p.1 ∈ old := by
  obtain ⟨cid, button⟩ := p
  simp [DivertChange.between, Std.ExtTreeMap.mem_toList_iff_getElem?_eq_some]

theorem nodup_handBack : (DivertChange.between old wanted.controls m.table).handBack.Nodup :=
  Std.ExtTreeMap.nodup_keys.filter _

theorem nodup_divert : ((DivertChange.between old wanted.controls m.table).divert.map Prod.fst).Nodup := by
  have hkeys : (wanted.controls.toList.map Prod.fst).Nodup := by
    rw [Std.ExtTreeMap.map_fst_toList_eq_keys]
    exact Std.ExtTreeMap.nodup_keys
  exact hkeys.sublist (List.filter_sublist.map _)

/-! ### The loops -/

theorem handedBack_start : handedBack (fun c => old[c]?) wanted.controls
    (DivertChange.between old wanted.controls m.table).handBack = fun c => old[c]? := by
  funext c
  unfold handedBack
  split
  · rfl
  · rename_i h
    rw [mem_handBack, not_or, not_and_not_right] at h
    exact (Std.ExtTreeMap.getElem?_eq_none fun hin => h.1 (h.2 hin)).symm

theorem handedBack_cons {cid : UInt16} {rest : List UInt16} (hwanted : cid ∉ wanted.controls) (hrest : cid ∉ rest) :
    Function.update (handedBack spec wanted.controls (cid :: rest)) cid none =
      handedBack spec wanted.controls rest := by
  funext c
  by_cases hc : c = cid
  · rw [hc, Function.update_self, handedBack, if_neg (not_or.2 ⟨hwanted, hrest⟩)]
  · rw [Function.update_of_ne hc]
    simp only [handedBack, List.mem_cons, hc, false_or]

theorem handedBack_end : handedBack (fun c => old[c]?) wanted.controls [] =
    divertedTo m old wanted (DivertChange.between old wanted.controls m.table).divert := by
  funext c
  have hdivert : c ∈ (DivertChange.between old wanted.controls m.table).divert.map Prod.fst ↔
      c ∉ old ∧ (target m wanted c).isSome := by
    constructor
    · intro h
      obtain ⟨p, hp, rfl⟩ := List.mem_map.1 h
      obtain ⟨hwanted, hold, hcan⟩ := mem_divert.1 hp
      exact ⟨hold, by rw [target, if_pos hcan, hwanted]; rfl⟩
    · rintro ⟨hold, htarget⟩
      unfold target at htarget
      split at htarget
      · obtain ⟨button, hbutton⟩ := Option.isSome_iff_exists.1 htarget
        exact List.mem_map.2 ⟨(c, button), mem_divert.2 ⟨hbutton, hold, ‹_›⟩, rfl⟩
      · cases htarget
  unfold handedBack divertedTo
  simp only [List.not_mem_nil, or_false]
  by_cases hold : c ∈ old
  · rw [if_neg fun h => (hdivert.1 h).1 hold, if_pos hold]
  · have hleft : (if c ∈ wanted.controls then old[c]? else none) = none := by
      rw [Std.ExtTreeMap.getElem?_eq_none hold, ite_self]
    rw [hleft, if_neg hold]
    split
    · rfl
    · rename_i h
      rw [hdivert, not_and, Option.not_isSome_iff_eq_none] at h
      exact (h hold).symm

theorem divertedTo_cons {rest : List (UInt16 × ButtonId)}
    (hp : p ∈ (DivertChange.between old wanted.controls m.table).divert) (hrest : p.1 ∉ rest.map Prod.fst) :
    Function.update (divertedTo m old wanted (p :: rest)) p.1 (some p.2) = divertedTo m old wanted rest := by
  obtain ⟨hwanted, hold, hcan⟩ := mem_divert.1 hp
  funext c
  by_cases hc : c = p.1
  · rw [hc, Function.update_self, divertedTo, if_neg hrest, if_neg hold, target, if_pos hcan, hwanted]
  · rw [Function.update_of_ne hc]
    simp only [divertedTo, List.map_cons, List.mem_cons, hc, false_or]

/-- The kept controls dispatch as wanted now. -/
theorem steady_keep (hs : Steady m found gRowFound kept before (divertedTo m old wanted []) s) :
    Steady m found gRowFound kept before (target m wanted)
      { s with armed := { s.armed with keys := { s.armed.keys with
        buttons := KeySession.keepButtons s.armed.keys.buttons
          (DivertChange.between old wanted.controls m.table).keep } } } := by
  set keep := (DivertChange.between old wanted.controls m.table).keep with hkeep
  set buttons := KeySession.keepButtons s.armed.keys.buttons keep with hbuttons
  have hin : ∀ c, c ∈ keep.map Prod.fst ↔ c ∈ wanted.controls ∧ c ∈ old := by
    intro c
    constructor
    · intro h
      obtain ⟨p, hp, rfl⟩ := List.mem_map.1 h
      obtain ⟨hw, hold⟩ := mem_keep.1 hp
      exact ⟨Std.ExtTreeMap.mem_iff_isSome_getElem?.2 (by rw [hw]; rfl), hold⟩
    · rintro ⟨hw, hold⟩
      obtain ⟨button, hbutton⟩ := Option.isSome_iff_exists.1 (Std.ExtTreeMap.mem_iff_isSome_getElem?.1 hw)
      exact List.mem_map.2 ⟨(c, button), mem_keep.2 ⟨hbutton, hold⟩, rfl⟩
  have hget : ∀ c, buttons[c]? = if c ∈ keep.map Prod.fst then wanted.controls[c]? else s.armed.keys.buttons[c]? :=
    getElem?_keepButtons wanted.controls keep _ fun p hp => (mem_keep.1 hp).1
  have hspec : ∀ c, s.armed.keys.buttons[c]? =
      if c ∈ old then if c ∈ wanted.controls then old[c]? else none else target m wanted c := fun c =>
    (hs.1.buttons c).trans (if_neg List.not_mem_nil)
  -- a control that was diverted and is wanted is still dispatched
  have hstays : ∀ c, c ∈ wanted.controls → c ∈ old → c ∈ s.armed.keys.buttons := by
    intro c hw hold
    rw [Std.ExtTreeMap.mem_iff_isSome_getElem?, hspec, if_pos hold, if_pos hw]
    exact Std.ExtTreeMap.mem_iff_isSome_getElem?.1 hold
  have hmem : ∀ c, c ∈ buttons ↔ c ∈ s.armed.keys.buttons := by
    intro c
    rw [Std.ExtTreeMap.mem_iff_isSome_getElem?, hget]
    by_cases h : c ∈ keep.map Prod.fst
    · rw [if_pos h]
      exact iff_of_true (Std.ExtTreeMap.mem_iff_isSome_getElem?.1 ((hin c).1 h).1)
        (hstays c ((hin c).1 h).1 ((hin c).1 h).2)
    · rw [if_neg h, Std.ExtTreeMap.mem_iff_isSome_getElem?]
  have htarget : ∀ c, buttons[c]? = target m wanted c := by
    intro c
    rw [hget]
    by_cases h : c ∈ keep.map Prod.fst
    · obtain ⟨hw, hold⟩ := (hin c).1 h
      rw [if_pos h, target, if_pos (hs.1.settled.divertable c (hstays c hw hold))]
    · rw [if_neg h, hspec]
      by_cases hold : c ∈ old
      · have hw : c ∉ wanted.controls := fun hw => h ((hin c).2 ⟨hw, hold⟩)
        rw [if_pos hold, if_neg hw, target, Std.ExtTreeMap.getElem?_eq_none hw, ite_self]
      · rw [if_neg hold]
  have h := hs.1.settled
  exact ⟨⟨⟨h.toControlsOwed, h.untouched, fun c => (h.owns c).trans (hmem c).symm,
    fun c hc => h.diverted c ((hmem c).1 hc), fun c hc => h.divertable c ((hmem c).1 hc)⟩, htarget, hs.1.writes⟩, hs.2⟩

/-- **The change takes the session to what is wanted.** -/
theorem holds_applyChange (hold : ∀ c, spec c = old[c]?)
    (hkept : ∀ c, kept c ↔ (spec c).isSome ∧ (target m wanted c).isSome) :
    Attempt.Holds (Owed m found gRowFound) (Steady m found gRowFound kept before spec)
      (KeySession.applyChange m (DivertChange.between old wanted.controls m.table))
      fun _ => Steady m found gRowFound kept before (target m wanted) := by
  obtain rfl : spec = fun c => old[c]? := funext hold
  unfold KeySession.applyChange
  cases hm : m.controls with
  | none =>
    -- without `0x1b04` nothing was ever diverted, and nothing can be
    have hcan : ∀ c, canDivert c m.table = false := by
      intro c
      unfold canDivert KeyboardModel.table
      rw [hm]
      simp
    refine Attempt.holds_pure fun s hs => ?_
    have htarget : target m wanted = fun c => old[c]? := by
      funext c
      rw [target, hcan, ← hs.1.buttons]
      refine (Std.ExtTreeMap.getElem?_eq_none fun hin => ?_).symm
      have := hs.1.settled.divertable c hin
      rw [hcan] at this
      cases this
    rw [htarget]
    exact hs
  | some table =>
    have hcontrols : m.controls ≠ none := by rw [hm]; exact Option.some_ne_none table
    have hback := Attempt.holds_each (M := Owed m found gRowFound) (g := KeySession.handBack)
      (I := fun rest => Steady m found gRowFound kept before (handedBack (fun c => old[c]?) wanted.controls rest))
      (DivertChange.between old wanted.controls m.table).handBack fun cid rest hsuffix => by
        have hmem : cid ∈ (DivertChange.between old wanted.controls m.table).handBack :=
          hsuffix.subset List.mem_cons_self
        have hn := (List.nodup_cons.1 (nodup_handBack.sublist hsuffix.sublist)).1
        have hw := (mem_handBack.1 hmem).2
        rw [← handedBack_cons hw hn]
        refine holds_handBack fun hk => ?_
        have hsome := ((hkept cid).1 hk).2
        rw [target, Std.ExtTreeMap.getElem?_eq_none hw, ite_self] at hsome
        cases hsome
    have hdivert := Attempt.holds_each (M := Owed m found gRowFound) (g := KeySession.divert)
      (I := fun rest => Steady m found gRowFound kept before (divertedTo m old wanted rest))
      (DivertChange.between old wanted.controls m.table).divert fun p rest hsuffix => by
        have hmem : p ∈ (DivertChange.between old wanted.controls m.table).divert :=
          hsuffix.subset List.mem_cons_self
        have hn := (List.nodup_cons.1 (nodup_divert.sublist (hsuffix.sublist.map Prod.fst))).1
        obtain ⟨hw, hnew, hcan⟩ := mem_divert.1 hmem
        rw [← divertedTo_cons hmem hn]
        refine holds_divert (fun hk => ?_) (if_pos List.mem_cons_self) hcan hcontrols
        have hsome : old[p.1]?.isSome := ((hkept p.1).1 hk).1
        rw [Std.ExtTreeMap.getElem?_eq_none hnew] at hsome
        cases hsome
    rw [handedBack_start] at hback
    rw [handedBack_end (m := m)] at hback
    have hkeep : Attempt.Holds (Owed m found gRowFound)
        (Steady m found gRowFound kept before (divertedTo m old wanted []))
        (KeySession.update fun armed => { armed with keys := { armed.keys with
          buttons := KeySession.keepButtons armed.keys.buttons
            (DivertChange.between old wanted.controls m.table).keep } })
        fun _ => Steady m found gRowFound kept before (target m wanted) := holds_update fun s hs =>
      have hsteady := steady_keep hs
      ⟨hsteady.owed, hsteady⟩
    exact hback.bind fun _ => hdivert.bind fun _ => hkeep

/-- **A retarget**: owed at every moment, and at what is wanted once it succeeds. -/
theorem holds_retarget (hkept : ∀ c, kept c ↔ (spec c).isSome ∧ (target m wanted c).isSome) :
    Attempt.Holds (Owed m found gRowFound) (Steady m found gRowFound kept before spec) (KeySession.retarget m wanted)
      fun _ => Steady m found gRowFound kept before (target m wanted) := by
  unfold KeySession.retarget
  have hgrid : Attempt.Holds (Owed m found gRowFound) (Steady m found gRowFound kept before spec)
      (KeySession.update fun armed => { armed with grid := armed.grid.follow wanted.grid })
      fun _ => Steady m found gRowFound kept before spec :=
    holds_aside (fun _ => rfl) (fun _ => rfl) fun _ => rfl
  have hget : Attempt.Holds (Owed m found gRowFound) (Steady m found gRowFound kept before spec) Attempt.get
      fun a s => (∀ c, spec c = a.armed.keys.buttons[c]?) ∧ Steady m found gRowFound kept before spec s :=
    Attempt.holds_get fun s hs => ⟨fun c => (hs.1.buttons c).symm, hs⟩
  exact hgrid.bind fun _ => (holds_followGaming _).bind fun _ => hget.bind fun _ =>
    Attempt.Holds.given fun hold => holds_applyChange hold hkept

end

end

/-! ## Acknowledged requests -/

/-- Every request to come is acknowledged. -/
def Acknowledged (s : KeySession) : Prop := ∀ n, s.ends n = .acknowledged

theorem succeeds_request {effect : WriteEnd → KeySession → KeySession} (h : ∀ e s, (effect e s).ends = s.ends) :
    Attempt.Succeeds Acknowledged (KeySession.request effect) := fun s hs => by
  refine ⟨?_, fun n => ?_⟩
  · simp only [KeySession.request, hs 0, WriteEnd.isOk, if_true, Option.isSome_some]
  · exact (congrFun (h _ _) n).trans (hs (n + 1))

theorem succeeds_update (f : ArmedKeys → ArmedKeys) : Attempt.Succeeds Acknowledged (KeySession.update f) :=
  Attempt.succeeds_modify fun _ hs => hs

theorem succeeds_ask : Attempt.Succeeds Acknowledged KeySession.ask := succeeds_request fun _ _ => rfl

theorem succeeds_setCidReporting (cid : UInt16) (change : CidReportingChange) :
    Attempt.Succeeds Acknowledged (KeySession.setCidReporting cid change) := succeeds_request fun _ _ => rfl

theorem succeeds_lookUpGaming (m : KeyboardModel) (wanted : GamingWanted) :
    Attempt.Succeeds Acknowledged (KeySession.lookUpGaming m wanted) := by
  refine Attempt.succeeds_get.bind fun s => ?_
  split
  · exact succeeds_ask.bind fun _ => succeeds_ask.bind fun _ => succeeds_ask.bind fun _ =>
      (succeeds_update _).bind fun _ => succeeds_update _
  · exact Attempt.succeeds_pure

theorem succeeds_followGaming (m : KeyboardModel) (wanted : GamingWanted) :
    Attempt.Succeeds Acknowledged (KeySession.followGaming m wanted) := by
  refine (succeeds_lookUpGaming m wanted).bind fun _ => Attempt.succeeds_get.bind fun s => ?_
  have hrow : ∀ taken, Attempt.Succeeds Acknowledged (KeySession.setGRow taken) := fun _ =>
    succeeds_request fun _ _ => rfl
  split
  · refine Attempt.Succeeds.bind (succeeds_ask.bind fun _ => ?_) fun _ => succeeds_update _
    split
    · exact Attempt.succeeds_pure
    · exact (succeeds_update _).bind fun _ => (succeeds_update _).bind fun _ => hrow true
  · exact ((succeeds_update _).bind fun _ => (hrow false).bind fun _ => succeeds_update _).bind fun _ =>
      succeeds_update _
  · exact succeeds_update _

theorem succeeds_handBack (cid : UInt16) : Attempt.Succeeds Acknowledged (KeySession.handBack cid) := by
  refine Attempt.succeeds_get.bind fun s => ?_
  split
  · exact (succeeds_setCidReporting _ _).bind fun _ => (succeeds_update _).bind fun _ => succeeds_update _
  · exact succeeds_update _

theorem succeeds_divert (p : UInt16 × ButtonId) : Attempt.Succeeds Acknowledged (KeySession.divert p) :=
  (succeeds_ask.bind fun _ => Attempt.succeeds_get.bind fun _ => Attempt.succeeds_pure).bind fun _ =>
    (succeeds_update _).bind fun _ => (succeeds_update _).bind fun _ => succeeds_setCidReporting _ _

/-- **A retarget all of whose requests are acknowledged succeeds.** -/
theorem succeeds_retarget (m : KeyboardModel) (wanted : KeyboardWanted) :
    Attempt.Succeeds Acknowledged (KeySession.retarget m wanted) := by
  refine (succeeds_update _).bind fun _ => (succeeds_followGaming m _).bind fun _ => Attempt.succeeds_get.bind fun s => ?_
  unfold KeySession.applyChange
  split
  · exact Attempt.succeeds_pure
  · exact (Attempt.succeeds_each succeeds_handBack _).bind fun _ =>
      (Attempt.succeeds_each succeeds_divert _).bind fun _ => succeeds_update _

/-! ## Runs -/

/-- What a session has passed, and where it is between two retargets. -/
structure KeyRun.Inv (m : KeyboardModel) (found : Firmware) (gRowFound : Bool) (k : KeyRun) : Prop where
  owed : ∀ s ∈ k.session :: k.passed, Owed m found gRowFound s
  steady : k.running = true → Steady m found gRowFound
    (fun c => (target m k.previous c).isSome ∧ (target m k.wanted c).isSome) k.before (target m k.wanted) k.session

section

variable {m : KeyboardModel} {found : Firmware} {gRowFound : Bool} {k k' : KeyRun}

theorem target_empty (c : UInt16) : target m {} c = none := by
  unfold target
  split
  · exact Std.ExtTreeMap.getElem?_empty
  · rfl

theorem KeyRun.inv_start : KeyRun.Inv m found gRowFound (KeyRun.start found gRowFound) := by
  have hsteady : Steady m found gRowFound (fun c => (target m {} c).isSome ∧ (target m {} c).isSome) []
      (target m {}) (KeyRun.start found gRowFound).session := by
    refine ⟨⟨⟨⟨fun c hc => .inl ⟨List.not_mem_nil, hc⟩, List.nodup_nil, fun _ => rfl⟩, fun _ _ => rfl, fun c => ?_,
      fun c hc => ?_, fun c hc => ?_⟩, fun c => ?_, [], rfl, fun c hc => (by cases hc)⟩, ?_⟩
    · exact iff_of_false List.not_mem_nil Std.ExtTreeMap.not_mem_empty
    · exact absurd hc Std.ExtTreeMap.not_mem_empty
    · exact absurd hc Std.ExtTreeMap.not_mem_empty
    · exact Std.ExtTreeMap.getElem?_empty.trans (target_empty c).symm
    · simp [RowSettled, KeyRun.start]
  exact ⟨fun s hs => List.mem_singleton.1 hs ▸ hsteady.owed, fun _ => hsteady⟩

theorem KeyRun.Inv.inv_step (h : KeyRun.Inv m found gRowFound k) {r : Retarget} (hstep : KeyRun.step m k r = some k') :
    KeyRun.Inv m found gRowFound k' := by
  unfold KeyRun.step at hstep
  split at hstep
  · rename_i hrunning
    obtain rfl := Option.some.inj hstep
    have hs := h.steady hrunning
    -- nothing has been written since this retarget began
    have hbegin : Steady m found gRowFound (fun c => (target m k.wanted c).isSome ∧ (target m r.wanted c).isSome)
        k.session.writes (target m k.wanted) { k.session with ends := r.ends } :=
      ⟨⟨hs.1.settled, hs.1.buttons, [], rfl, fun c hc => (by cases hc)⟩, hs.2⟩
    obtain ⟨hpassed, hok, hfailed⟩ :=
      holds_retarget (fun c => Iff.refl ((target m k.wanted c).isSome ∧ (target m r.wanted c).isSome)) _ hbegin
    refine ⟨fun s hin => ?_, fun hsome => ?_⟩
    · obtain rfl | hin := List.mem_cons.1 hin
      · cases hres : (KeySession.retarget m r.wanted { k.session with ends := r.ends }).result with
        | none => exact hfailed hres
        | some _ => exact (hok _ hres).owed
      · exact (List.mem_append.1 hin).elim (hpassed s) fun hold => h.owed s (List.mem_cons_of_mem _ hold)
    · obtain ⟨a, ha⟩ := Option.isSome_iff_exists.1 hsome
      exact hok a ha
  · cases hstep

theorem KeyRun.Inv.follows (h : KeyRun.Inv m found gRowFound k) (hrunning : k.running = true) :
    Follows m found gRowFound k := by
  have hs := h.steady hrunning
  have hcids := hs.1.settled.toControlsOwed.cids
  have hmem : ∀ c, c ∈ k.session.armed.reporting.map (·.cid) ↔ (target m k.wanted c).isSome := by
    intro c
    rw [hs.1.settled.owns, Std.ExtTreeMap.mem_iff_isSome_getElem?, hs.1.buttons]
  refine ⟨hs.1.buttons, fun c => ?_, fun c => ⟨fun hd => ?_, ?_⟩, hs.1.writes, hs.2⟩
  · rw [hcids]
    exact hmem c
  · obtain hfound | hin := hs.1.settled.covered c hd
    · exact .inr hfound
    · exact .inl ((hmem c).1 hin)
  · rintro (hsome | ⟨hwrites, hfound⟩)
    · exact hs.1.settled.diverted c ((hs.1.settled.owns c).1 ((hmem c).2 hsome))
    · rw [hs.1.settled.untouched c hwrites]
      exact hfound

/-- **The divert set follows its owner**: in every state a session passes, also after a failure, whatever it may have
diverted is owed a restore once; and after each retarget that succeeds, as one does whose requests are acknowledged, the
controls diverted, dispatched and owed are those wanted that can be diverted, and none that stays was written. -/
theorem divert_set_follows (m : KeyboardModel) (found : Firmware) (gRowFound : Bool) (rs : List Retarget) :
    EveryState (KeyRun.step m) (fun k => (∀ s ∈ k.session :: k.passed, Owed m found gRowFound s) ∧
      (k.running = true → Follows m found gRowFound k ∧ ∀ r : Retarget, (∀ n, r.ends n = .acknowledged) →
        ∃ k', KeyRun.step m k r = some k' ∧ k'.running = true)) (KeyRun.start found gRowFound) rs := by
  intro pre k _ hrun
  have h := run_inv (KeyRun.Inv m found gRowFound) (fun _ _ _ h hs => h.inv_step hs) pre _ _ KeyRun.inv_start hrun
  refine ⟨h.owed, fun hrunning => ⟨h.follows hrunning, fun r hr => ?_⟩⟩
  exact ⟨_, if_pos hrunning, (succeeds_retarget m r.wanted { k.session with ends := r.ends } hr).1⟩

end

end Session
end OpenLogi
