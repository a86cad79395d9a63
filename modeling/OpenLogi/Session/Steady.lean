import OpenLogi.Session.Divert
/-!
# Steady — what a keyboard session owes between its requests

Whatever is diverted is owed a restore before it is written and until the firmware has it back: the rules of the
requests a retarget makes, for the G-key row and for one control.
-/
namespace OpenLogi
namespace Session

open OpenLogi.Core Lib

def PendingCaptureRestore.cids (pending : PendingCaptureRestore) : List UInt16 := pending.reprog.map (·.cid)

/-- Whatever is diverted was so when the session began and was not written since, or is owed a restore, once. -/
structure Owed (m : KeyboardModel) (found : Firmware) (gRowFound : Bool) (s : KeySession) : Prop where
  controls : ∀ cid, (s.fw cid).diverted = true →
    cid ∉ s.writes ∧ (found cid).diverted = true ∨ cid ∈ (s.armed.intoPending m).cids
  once : (s.armed.intoPending m).cids.Nodup
  gRow : s.gRow = true → s.gRowWritten = false ∧ gRowFound = true ∨ (s.armed.intoPending m).gKeys.isSome

/-! ## What holds between the requests -/

/-- What a session that has failed may be left with. -/
structure ControlsOwed (m : KeyboardModel) (found fw : Firmware) (writes : List UInt16)
    (reporting : List ArmedReporting) : Prop where
  covered : ∀ cid, (fw cid).diverted = true →
    cid ∉ writes ∧ (found cid).diverted = true ∨ cid ∈ reporting.map (·.cid)
  once : (reporting.map (·.cid)).Nodup
  absent : m.controls = none → reporting = []

structure ControlsSettled (m : KeyboardModel) (found fw : Firmware) (writes : List UInt16)
    (reporting : List ArmedReporting) (buttons : ButtonMap UInt16) : Prop extends
    ControlsOwed m found fw writes reporting where
  untouched : ∀ cid, cid ∉ writes → fw cid = found cid
  owns : ∀ cid, cid ∈ reporting.map (·.cid) ↔ cid ∈ buttons
  diverted : ∀ cid ∈ buttons, (fw cid).diverted = true
  divertable : ∀ cid ∈ buttons, canDivert cid m.table = true

/-- The controls are settled and dispatch as `spec` says, and no kept control was written since `before`. -/
structure Dispatches (m : KeyboardModel) (found : Firmware) (kept : UInt16 → Prop) (before : List UInt16)
    (spec : UInt16 → Option ButtonId) (s : KeySession) : Prop where
  settled : ControlsSettled m found s.fw s.writes s.armed.reporting s.armed.keys.buttons
  buttons : ∀ cid, s.armed.keys.buttons[cid]? = spec cid
  writes : ∃ writes, s.writes = writes ++ before ∧ ∀ cid ∈ writes, ¬kept cid

def RowOwed (gRowFound : Bool) (s : KeySession) : Prop :=
  s.gRow = true → s.gRowWritten = false ∧ gRowFound = true ∨ s.armed.gRowTaken.isSome

def RowSettled (gRowFound : Bool) (s : KeySession) : Prop :=
  s.gRow = true ↔ s.gRowWritten = false ∧ gRowFound = true ∨ s.armed.gRowTaken.isSome

section

variable {m : KeyboardModel} {found : Firmware} {gRowFound : Bool} {kept : UInt16 → Prop} {before : List UInt16}
  {spec : UInt16 → Option ButtonId} {s : KeySession}

theorem ControlsOwed.cids (h : ControlsOwed m found s.fw s.writes s.armed.reporting) :
    (s.armed.intoPending m).cids = s.armed.reporting.map (·.cid) := by
  unfold PendingCaptureRestore.cids ArmedKeys.intoPending
  cases hm : m.controls with
  | none => rw [h.absent hm]; rfl
  | some table => rfl

theorem ControlsOwed.owed (h : ControlsOwed m found s.fw s.writes s.armed.reporting) (hrow : RowOwed gRowFound s) :
    Owed m found gRowFound s :=
  ⟨h.cids ▸ h.covered, h.cids ▸ h.once, hrow⟩

theorem Dispatches.owed (h : Dispatches m found kept before spec s) (hrow : RowOwed gRowFound s) :
    Owed m found gRowFound s :=
  h.settled.toControlsOwed.owed hrow

theorem RowSettled.owed (h : RowSettled gRowFound s) : RowOwed gRowFound s := h.1

theorem rowOwed_of_taken (h : s.armed.gRowTaken.isSome) : RowOwed gRowFound s := fun _ => .inr h

/-! ## Requests and updates -/

theorem holds_request {M P Q : KeySession → Prop} {effect : WriteEnd → KeySession → KeySession}
    (h : ∀ s, P s → ∀ ends e, M (effect e { s with ends }))
    (hok : ∀ s, P s → ∀ ends, Q (effect .acknowledged { s with ends })) :
    Attempt.Holds M P (KeySession.request effect) fun _ => Q := by
  intro s hs
  unfold KeySession.request
  refine ⟨fun t ht => List.mem_singleton.1 ht ▸ h s hs _ _, fun a ha => ?_, fun _ => h s hs _ _⟩
  cases he : s.ends 0 with
  | acknowledged => exact hok s hs _
  | failed applied => rw [he] at ha; cases ha

theorem holds_update {M P Q : KeySession → Prop} {f : ArmedKeys → ArmedKeys}
    (h : ∀ s, P s → M { s with armed := f s.armed } ∧ Q { s with armed := f s.armed }) :
    Attempt.Holds M P (KeySession.update f) fun _ => Q := Attempt.holds_modify h

theorem Dispatches.same (h : Dispatches m found kept before spec s) {t : KeySession} (hfw : t.fw = s.fw)
    (hwrites : t.writes = s.writes) (hreporting : t.armed.reporting = s.armed.reporting)
    (hbuttons : t.armed.keys.buttons = s.armed.keys.buttons) : Dispatches m found kept before spec t :=
  ⟨by rw [hfw, hwrites, hreporting, hbuttons]; exact h.settled, hbuttons ▸ h.buttons, hwrites ▸ h.writes⟩

/-! ## The gaming cluster -/

/-- What holds between the requests of a retarget. -/
def Steady (m : KeyboardModel) (found : Firmware) (gRowFound : Bool) (kept : UInt16 → Prop) (before : List UInt16)
    (spec : UInt16 → Option ButtonId) (s : KeySession) : Prop :=
  Dispatches m found kept before spec s ∧ RowSettled gRowFound s

/-- While the row is taken or handed back. -/
def Taking (m : KeyboardModel) (found : Firmware) (kept : UInt16 → Prop) (before : List UInt16)
    (spec : UInt16 → Option ButtonId) (s : KeySession) : Prop :=
  Dispatches m found kept before spec s ∧ s.armed.gRowTaken.isSome

theorem Steady.owed (h : Steady m found gRowFound kept before spec s) : Owed m found gRowFound s :=
  h.1.owed h.2.owed

theorem Taking.owed (h : Taking m found kept before spec s) : Owed m found gRowFound s :=
  h.1.owed (rowOwed_of_taken h.2)

theorem holds_ask : Attempt.Holds (Owed m found gRowFound) (Steady m found gRowFound kept before spec) KeySession.ask
    fun _ => Steady m found gRowFound kept before spec :=
  holds_request (fun _ hs _ _ => Steady.owed ⟨hs.1.same rfl rfl rfl rfl, hs.2⟩)
    fun _ hs _ => ⟨hs.1.same rfl rfl rfl rfl, hs.2⟩

/-- An update of the session that leaves the controls and the row. -/
theorem holds_aside {f : ArmedKeys → ArmedKeys} (hreporting : ∀ armed, (f armed).reporting = armed.reporting)
    (hbuttons : ∀ armed, (f armed).keys.buttons = armed.keys.buttons)
    (hrow : ∀ armed, (f armed).gRowTaken = armed.gRowTaken) :
    Attempt.Holds (Owed m found gRowFound) (Steady m found gRowFound kept before spec) (KeySession.update f)
      fun _ => Steady m found gRowFound kept before spec := by
  refine holds_update fun s hs => ?_
  have hsteady : Steady m found gRowFound kept before spec { s with armed := f s.armed } := by
    refine ⟨hs.1.same rfl rfl (hreporting _) (hbuttons _), ?_⟩
    unfold RowSettled
    rw [hrow]
    exact hs.2
  exact ⟨hsteady.owed, hsteady⟩

theorem holds_lookUpGaming (wanted : GamingWanted) :
    Attempt.Holds (Owed m found gRowFound) (Steady m found gRowFound kept before spec)
      (KeySession.lookUpGaming m wanted) fun _ => Steady m found gRowFound kept before spec := by
  unfold KeySession.lookUpGaming
  refine (Attempt.holds_get fun _ hs => hs).bind fun s => ?_
  split
  · refine holds_ask.bind fun _ => holds_ask.bind fun _ => holds_ask.bind fun _ => ?_
    refine (holds_aside ?_ ?_ ?_).bind fun _ => holds_aside ?_ ?_ ?_ <;> exact fun _ => rfl
  · exact Attempt.holds_pure fun _ hs => hs

/-- **Taking the row**: it is owed before it is written. -/
theorem holds_takeGRow (index : UInt8) (modeKeys : ModeKey → Bool) :
    Attempt.Holds (Owed m found gRowFound) (Steady m found gRowFound kept before spec)
      (KeySession.takeGRow m index modeKeys) fun _ => Steady m found gRowFound kept before spec := by
  unfold KeySession.takeGRow
  refine holds_ask.bind fun _ => ?_
  split
  · exact Attempt.holds_pure fun _ hs => hs
  · have htaken : Attempt.Holds (Owed m found gRowFound) (Steady m found gRowFound kept before spec)
        (KeySession.update fun armed => { armed with gRowTaken := some index })
        fun _ => Taking m found kept before spec := by
      refine holds_update fun s hs => ?_
      have htaking : Taking m found kept before spec
          { s with armed := { s.armed with gRowTaken := some index } } := ⟨hs.1.same rfl rfl rfl rfl, rfl⟩
      exact ⟨htaking.owed, htaking⟩
    have hfollow : Attempt.Holds (Owed m found gRowFound) (Taking m found kept before spec)
        (KeySession.update fun armed => { armed with gaming := armed.gaming.follow true modeKeys })
        fun _ => Taking m found kept before spec := by
      refine holds_update fun s hs => ?_
      have htaking : Taking m found kept before spec
          { s with armed := { s.armed with gaming := s.armed.gaming.follow true modeKeys } } :=
        ⟨hs.1.same rfl rfl rfl rfl, hs.2⟩
      exact ⟨htaking.owed, htaking⟩
    refine htaken.bind fun _ => hfollow.bind fun _ => holds_request (fun s hs _ e => ?_) fun s hs _ => ?_
    · exact Taking.owed ⟨hs.1.same rfl rfl rfl rfl, hs.2⟩
    · exact ⟨hs.1.same rfl rfl rfl rfl, iff_of_true rfl (.inr hs.2)⟩

/-- **Handing the row back**: it is owed until the firmware has it. -/
theorem holds_releaseGRow (modeKeys : ModeKey → Bool) :
    Attempt.Holds (Owed m found gRowFound)
      (fun s => Steady m found gRowFound kept before spec s ∧ s.armed.gRowTaken.isSome)
      (KeySession.releaseGRow modeKeys) fun _ => Steady m found gRowFound kept before spec := by
  unfold KeySession.releaseGRow
  have hfollow : Attempt.Holds (Owed m found gRowFound)
      (fun s => Steady m found gRowFound kept before spec s ∧ s.armed.gRowTaken.isSome)
      (KeySession.update fun armed => { armed with gaming := armed.gaming.follow false modeKeys })
      fun _ => Taking m found kept before spec := by
    refine holds_update fun s hs => ?_
    have htaking : Taking m found kept before spec
        { s with armed := { s.armed with gaming := s.armed.gaming.follow false modeKeys } } :=
      ⟨hs.1.1.same rfl rfl rfl rfl, hs.2⟩
    exact ⟨htaking.owed, htaking⟩
  have hrelease : Attempt.Holds (Owed m found gRowFound) (Taking m found kept before spec) (KeySession.setGRow false)
      fun _ s => Taking m found kept before spec s ∧ s.gRow = false ∧ s.gRowWritten = true := by
    refine holds_request (fun s hs _ e => ?_) fun s hs _ => ?_
    · exact Taking.owed ⟨hs.1.same rfl rfl rfl rfl, hs.2⟩
    · exact ⟨⟨hs.1.same rfl rfl rfl rfl, hs.2⟩, rfl, rfl⟩
  refine hfollow.bind fun _ => hrelease.bind fun _ => holds_update fun s hs => ?_
  have hsteady : Steady m found gRowFound kept before spec
      { s with armed := { s.armed with gRowTaken := none } } := by
    refine ⟨hs.1.1.same rfl rfl rfl rfl, ?_⟩
    unfold RowSettled
    rw [hs.2.1, hs.2.2]
    simp
  exact ⟨hsteady.owed, hsteady⟩

theorem holds_followGaming (wanted : GamingWanted) :
    Attempt.Holds (Owed m found gRowFound) (Steady m found gRowFound kept before spec)
      (KeySession.followGaming m wanted) fun _ => Steady m found gRowFound kept before spec := by
  unfold KeySession.followGaming
  refine (holds_lookUpGaming wanted).bind fun _ => ?_
  -- the branch is taken on what the state is here
  have hget : Attempt.Holds (Owed m found gRowFound) (Steady m found gRowFound kept before spec) Attempt.get
      fun a s => Steady m found gRowFound kept before spec s ∧ s.armed.gRowTaken = a.armed.gRowTaken :=
    Attempt.holds_get fun _ hs => ⟨hs, rfl⟩
  have hfollow : Attempt.Holds (Owed m found gRowFound) (Steady m found gRowFound kept before spec)
      (KeySession.update fun armed =>
        { armed with gaming := armed.gaming.follow armed.gRowTaken.isSome wanted.modeKeys })
      fun _ => Steady m found gRowFound kept before spec :=
    holds_aside (fun _ => rfl) (fun _ => rfl) fun _ => rfl
  refine hget.bind fun a => ?_
  split
  · exact ((holds_takeGRow _ _).pre fun _ hs => hs.1).bind fun _ => hfollow
  · rename_i index _ htaken
    refine ((holds_releaseGRow _).pre fun s hs => ⟨hs.1, ?_⟩).bind fun _ => hfollow
    rw [hs.2, htaken]
    rfl
  · have hskip : Attempt.Holds (Owed m found gRowFound)
        (fun s => Steady m found gRowFound kept before spec s ∧ s.armed.gRowTaken = a.armed.gRowTaken) (pure ())
        fun _ => Steady m found gRowFound kept before spec := Attempt.holds_pure fun _ hs => hs.1
    exact hskip.bind fun _ => hfollow

/-! ## One control -/

/-- What holds while `cid` is handed back or diverted: the other controls are settled. -/
structure Between (m : KeyboardModel) (found : Firmware) (gRowFound : Bool) (kept : UInt16 → Prop)
    (before : List UInt16) (spec : UInt16 → Option ButtonId) (cid : UInt16) (s : KeySession) : Prop where
  owed : ControlsOwed m found s.fw s.writes s.armed.reporting
  row : RowSettled gRowFound s
  untouched : ∀ c, c ∉ s.writes → s.fw c = found c
  owns : ∀ c, c ≠ cid → (c ∈ s.armed.reporting.map (·.cid) ↔ c ∈ s.armed.keys.buttons)
  diverted : ∀ c ∈ s.armed.keys.buttons, c ≠ cid → (s.fw c).diverted = true
  divertable : ∀ c ∈ s.armed.keys.buttons, c ≠ cid → canDivert c m.table = true
  buttons : ∀ c, c ≠ cid → s.armed.keys.buttons[c]? = spec c
  writes : ∃ writes, s.writes = writes ++ before ∧ ∀ c ∈ writes, ¬kept c

theorem Steady.between (h : Steady m found gRowFound kept before spec s) (cid : UInt16) :
    Between m found gRowFound kept before spec cid s where
  owed := h.1.settled.toControlsOwed
  row := h.2
  untouched := h.1.settled.untouched
  owns c _ := h.1.settled.owns c
  diverted c hc _ := h.1.settled.diverted c hc
  divertable c hc _ := h.1.settled.divertable c hc
  buttons c _ := h.1.buttons c
  writes := h.1.writes

section

variable {cid : UInt16}

/-- Once `cid` is settled too the requests go on. -/
theorem Between.steady (h : Between m found gRowFound kept before spec cid s)
    (howns : cid ∈ s.armed.reporting.map (·.cid) ↔ cid ∈ s.armed.keys.buttons)
    (hcid : cid ∈ s.armed.keys.buttons → (s.fw cid).diverted = true ∧ canDivert cid m.table = true) :
    Steady m found gRowFound kept before (Function.update spec cid s.armed.keys.buttons[cid]?) s := by
  refine ⟨⟨⟨h.owed, h.untouched, fun c => ?_, fun c hc => ?_, fun c hc => ?_⟩, fun c => ?_, h.writes⟩, h.row⟩
  · by_cases he : c = cid
    · rw [he]
      exact howns
    · exact h.owns c he
  · by_cases he : c = cid
    · rw [he] at hc ⊢
      exact (hcid hc).1
    · exact h.diverted c hc he
  · by_cases he : c = cid
    · rw [he] at hc ⊢
      exact (hcid hc).2
    · exact h.divertable c hc he
  · by_cases he : c = cid
    · rw [he, Function.update_self]
    · rw [Function.update_of_ne he, h.buttons c he]

/-- **A write to the control in hand**, however it ends, as long as the control is owed. -/
theorem Between.write (h : Between m found gRowFound kept before spec cid s)
    (howed : cid ∈ s.armed.reporting.map (·.cid)) (hkept : ¬kept cid) (change : CidReportingChange) (e : WriteEnd)
    (ends : Nat → WriteEnd) : Between m found gRowFound kept before spec cid
      { s with fw := s.fw.write cid change e, writes := cid :: s.writes, ends } := by
  have hother : ∀ c, c ≠ cid → s.fw.write cid change e c = s.fw c := fun c hc => s.fw.write_of_ne hc change e
  refine ⟨⟨fun c hc => ?_, h.owed.once, h.owed.absent⟩, h.row, fun c hc => ?_, h.owns, fun c hc hne => ?_,
    h.divertable, h.buttons, ?_⟩
  · by_cases he : c = cid
    · exact .inr (he ▸ howed)
    · change (s.fw.write cid change e c).diverted = true at hc
      rw [hother c he] at hc
      obtain ⟨hwrites, hfound⟩ | hin := h.owed.covered c hc
      · exact .inl ⟨fun hin => (List.mem_cons.1 hin).elim he hwrites, hfound⟩
      · exact .inr hin
  · have hne : c ≠ cid := fun he => hc (he ▸ List.mem_cons_self)
    change s.fw.write cid change e c = found c
    rw [hother c hne]
    exact h.untouched c fun hin => hc (List.mem_cons_of_mem _ hin)
  · change (s.fw.write cid change e c).diverted = true
    rw [hother c hne]
    exact h.diverted c hc hne
  · obtain ⟨writes, hwrites, hall⟩ := h.writes
    refine ⟨cid :: writes, by simp [hwrites], fun c hc => ?_⟩
    obtain rfl | hc := List.mem_cons.1 hc
    · exact hkept
    · exact hall c hc

theorem Between.toOwed (h : Between m found gRowFound kept before spec cid s) : Owed m found gRowFound s :=
  h.owed.owed h.row.owed

/-- The control is handed back and forgotten. -/
theorem mem_forgotten (cid : UInt16) {reporting : List ArmedReporting} (hn : (reporting.map (·.cid)).Nodup)
    (c : UInt16) :
    c ∈ (reporting.eraseP fun r => r.cid = cid).map (·.cid) ↔ c ≠ cid ∧ c ∈ reporting.map (·.cid) := by
  induction reporting with
  | nil => simp
  | cons r reporting ih =>
    rw [List.map_cons, List.nodup_cons] at hn
    by_cases hr : r.cid = cid
    · rw [List.eraseP_cons_of_pos (by simpa using hr), List.map_cons, List.mem_cons, hr]
      constructor
      · intro hc
        exact ⟨fun he => hn.1 (hr ▸ he ▸ hc), .inr hc⟩
      · rintro ⟨hne, he | hc⟩
        · exact absurd he hne
        · exact hc
    · rw [List.eraseP_cons_of_neg (by simpa using hr), List.map_cons, List.map_cons, List.mem_cons, List.mem_cons,
        ih hn.2]
      constructor
      · rintro (he | ⟨hne, hc⟩)
        · exact ⟨he ▸ hr, .inl he⟩
        · exact ⟨hne, .inr hc⟩
      · rintro ⟨hne, he | hc⟩
        · exact .inl he
        · exact .inr ⟨hne, hc⟩

/-- **Handing a control back.** -/
theorem holds_handBack (hkept : ¬kept cid) :
    Attempt.Holds (Owed m found gRowFound) (Steady m found gRowFound kept before spec) (KeySession.handBack cid)
      fun _ => Steady m found gRowFound kept before (Function.update spec cid none) := by
  unfold KeySession.handBack
  have hget : Attempt.Holds (Owed m found gRowFound) (Steady m found gRowFound kept before spec) Attempt.get
      fun a s => Steady m found gRowFound kept before spec s ∧ s.armed.reporting = a.armed.reporting :=
    Attempt.holds_get fun _ hs => ⟨hs, rfl⟩
  have hremove : Attempt.Holds (Owed m found gRowFound)
      (fun s => Between m found gRowFound kept before spec cid s ∧ cid ∉ s.armed.reporting.map (·.cid))
      (KeySession.update fun armed => { armed with keys := armed.keys.remove cid })
      fun _ => Steady m found gRowFound kept before (Function.update spec cid none) := by
    refine holds_update fun s hs => ?_
    have hbuttons : ∀ c, c ∈ s.armed.keys.buttons.erase cid ↔ c ≠ cid ∧ c ∈ s.armed.keys.buttons := by
      intro c
      rw [Std.ExtTreeMap.mem_erase]
      exact and_congr_left' (by rw [ne_eq, Std.LawfulEqCmp.compare_eq_iff_eq, eq_comm])
    have hbetween : Between m found gRowFound kept before spec cid
        { s with armed := { s.armed with keys := s.armed.keys.remove cid } } := by
      refine ⟨hs.1.owed, hs.1.row, hs.1.untouched, fun c hc => ?_, fun c hc hne => ?_, fun c hc hne => ?_,
        fun c hc => ?_, hs.1.writes⟩
      · exact (hs.1.owns c hc).trans ((hbuttons c).trans (and_iff_right hc)).symm
      · exact hs.1.diverted c ((hbuttons c).1 hc).2 hne
      · exact hs.1.divertable c ((hbuttons c).1 hc).2 hne
      · have hget : (s.armed.keys.buttons.erase cid)[c]? = s.armed.keys.buttons[c]? := by
          rw [Std.ExtTreeMap.getElem?_erase, if_neg fun h => hc (Std.LawfulEqCmp.compare_eq_iff_eq.1 h).symm]
        exact hget.trans (hs.1.buttons c hc)
    have hgone : cid ∉ s.armed.keys.buttons.erase cid := fun h => ((hbuttons cid).1 h).1 rfl
    have hsteady := hbetween.steady (iff_of_false hs.2 hgone) fun h => absurd h hgone
    have hnone : (s.armed.keys.buttons.erase cid)[cid]? = none := Std.ExtTreeMap.getElem?_eq_none hgone
    change Steady m found gRowFound kept before (Function.update spec cid (s.armed.keys.buttons.erase cid)[cid]?) _
      at hsteady
    rw [hnone] at hsteady
    exact ⟨hsteady.owed, hsteady⟩
  refine hget.bind fun a => ?_
  split
  · rename_i r hfind
    have hcid : r.cid = cid := by simpa using List.find?_some hfind
    have hwrite : Attempt.Holds (Owed m found gRowFound)
        (fun s => Steady m found gRowFound kept before spec s ∧ s.armed.reporting = a.armed.reporting)
        (KeySession.setCidReporting cid (undivertKeyboardKey r.original))
        fun _ s => Between m found gRowFound kept before spec cid s ∧ (s.fw cid).diverted = false := by
      have howed : ∀ s : KeySession, s.armed.reporting = a.armed.reporting → cid ∈ s.armed.reporting.map (·.cid) := by
        intro s hs
        rw [hs]
        exact List.mem_map.2 ⟨r, List.mem_of_find?_eq_some hfind, hcid⟩
      refine holds_request (fun s hs ends e => ?_) fun s hs ends => ?_
      · exact ((hs.1.between cid).write (howed s hs.2) hkept _ e ends).toOwed
      · refine ⟨(hs.1.between cid).write (howed s hs.2) hkept _ _ ends, ?_⟩
        change (s.fw.write cid (undivertKeyboardKey r.original) .acknowledged cid).diverted = false
        rw [Firmware.diverted_write]
        rfl
    have hforget : Attempt.Holds (Owed m found gRowFound)
        (fun s => Between m found gRowFound kept before spec cid s ∧ (s.fw cid).diverted = false)
        (KeySession.update fun armed => { armed with reporting := armed.reporting.eraseP fun r => r.cid = cid })
        fun _ s => Between m found gRowFound kept before spec cid s ∧ cid ∉ s.armed.reporting.map (·.cid) := by
      refine holds_update fun s hs => ?_
      have hmem := mem_forgotten cid hs.1.owed.once
      have hbetween : Between m found gRowFound kept before spec cid
          { s with armed := { s.armed with reporting := s.armed.reporting.eraseP fun r => r.cid = cid } } := by
        refine ⟨⟨fun c hc => ?_, hs.1.owed.once.sublist ((List.eraseP_sublist).map _), fun hm => ?_⟩, hs.1.row,
          hs.1.untouched, fun c hc => ?_, hs.1.diverted, hs.1.divertable, hs.1.buttons, hs.1.writes⟩
        · obtain h | hin := hs.1.owed.covered c hc
          · exact .inl h
          · refine .inr ((hmem c).2 ⟨fun he => ?_, hin⟩)
            rw [he] at hc
            exact absurd hc (by simp [hs.2])
        · change List.eraseP _ s.armed.reporting = []
          rw [hs.1.owed.absent hm]
          rfl
        · exact ((hmem c).trans (and_iff_right hc)).trans (hs.1.owns c hc)
      exact ⟨hbetween.toOwed, hbetween, fun hin => ((hmem cid).1 hin).1 rfl⟩
    exact hwrite.bind fun _ => hforget.bind fun _ => hremove
  · rename_i hfind
    have hskip : Attempt.Holds (Owed m found gRowFound)
        (fun s => Steady m found gRowFound kept before spec s ∧ s.armed.reporting = a.armed.reporting) (pure ())
        fun _ s => Between m found gRowFound kept before spec cid s ∧ cid ∉ s.armed.reporting.map (·.cid) := by
      refine Attempt.holds_pure fun s hs => ⟨hs.1.between cid, fun hin => ?_⟩
      rw [hs.2] at hin
      obtain ⟨r, hr, hcid⟩ := List.mem_map.1 hin
      exact absurd hcid (by simpa using List.find?_eq_none.1 hfind r hr)
    exact hskip.bind fun _ => hremove

/-- **Diverting a control.** -/
theorem holds_divert {button : ButtonId} (hkept : ¬kept cid) (hspec : spec cid = none)
    (hcan : canDivert cid m.table = true) (hm : m.controls ≠ none) :
    Attempt.Holds (Owed m found gRowFound) (Steady m found gRowFound kept before spec)
      (KeySession.divert (cid, button))
      fun _ => Steady m found gRowFound kept before (Function.update spec cid (some button)) := by
  unfold KeySession.divert
  have hread : Attempt.Holds (Owed m found gRowFound) (Steady m found gRowFound kept before spec)
      (KeySession.getCidReporting cid) fun _ => Steady m found gRowFound kept before spec := by
    unfold KeySession.getCidReporting
    exact holds_ask.bind fun _ => (Attempt.holds_get fun _ hs => hs).bind fun _ => Attempt.holds_pure fun _ hs => hs
  refine hread.bind fun original => ?_
  have howe : Attempt.Holds (Owed m found gRowFound) (Steady m found gRowFound kept before spec)
      (KeySession.update fun armed => { armed with reporting := armed.reporting ++ [⟨cid, original⟩] })
      fun _ s => Between m found gRowFound kept before spec cid s ∧ cid ∈ s.armed.reporting.map (·.cid) := by
    refine holds_update fun s hs => ?_
    have hnew : cid ∉ s.armed.reporting.map (·.cid) := by
      rw [hs.1.settled.owns, Std.ExtTreeMap.mem_iff_isSome_getElem?, hs.1.buttons, hspec]
      simp
    have hmem : ∀ c, c ∈ (s.armed.reporting ++ [(⟨cid, original⟩ : ArmedReporting)]).map (·.cid) ↔
        c ∈ s.armed.reporting.map (·.cid) ∨ c = cid := fun c => by simp
    have h := hs.between cid
    have hbetween : Between m found gRowFound kept before spec cid
        { s with armed := { s.armed with reporting := s.armed.reporting ++ [⟨cid, original⟩] } } := by
      refine ⟨⟨fun c hc => (h.owed.covered c hc).imp_right fun hin => (hmem c).2 (.inl hin), ?_,
        fun hn => absurd hn hm⟩, h.row, h.untouched, fun c hc => ?_, h.diverted, h.divertable, h.buttons, h.writes⟩
      · rw [List.map_append]
        refine List.nodup_append.2 ⟨h.owed.once, List.nodup_singleton _, fun c hc d hd he => hnew ?_⟩
        have hd : d = cid := List.mem_singleton.1 hd
        rwa [← hd, ← he]
      · exact ((hmem c).trans (or_iff_left hc)).trans (h.owns c hc)
    exact ⟨hbetween.toOwed, hbetween, (hmem cid).2 (.inr rfl)⟩
  have hinsert : Attempt.Holds (Owed m found gRowFound)
      (fun s => Between m found gRowFound kept before spec cid s ∧ cid ∈ s.armed.reporting.map (·.cid))
      (KeySession.update fun armed =>
        { armed with keys := { armed.keys with buttons := armed.keys.buttons.insert cid button } })
      fun _ s => Between m found gRowFound kept before spec cid s ∧ cid ∈ s.armed.reporting.map (·.cid) ∧
        s.armed.keys.buttons[cid]? = some button := by
    refine holds_update fun s hs => ?_
    have hget : ∀ c, c ≠ cid → (s.armed.keys.buttons.insert cid button)[c]? = s.armed.keys.buttons[c]? := by
      intro c hc
      rw [Std.ExtTreeMap.getElem?_insert, if_neg fun h => hc (Std.LawfulEqCmp.compare_eq_iff_eq.1 h).symm]
    have hmem : ∀ c, c ≠ cid → (c ∈ s.armed.keys.buttons.insert cid button ↔ c ∈ s.armed.keys.buttons) := by
      intro c hc
      rw [Std.ExtTreeMap.mem_iff_isSome_getElem?, hget c hc, Std.ExtTreeMap.mem_iff_isSome_getElem?]
    have h := hs.1
    have hbetween : Between m found gRowFound kept before spec cid
        { s with armed :=
          { s.armed with keys := { s.armed.keys with buttons := s.armed.keys.buttons.insert cid button } } } :=
      ⟨h.owed, h.row, h.untouched, fun c hc => (h.owns c hc).trans (hmem c hc).symm,
        fun c hc hne => h.diverted c ((hmem c hne).1 hc) hne, fun c hc hne => h.divertable c ((hmem c hne).1 hc) hne,
        fun c hc => (hget c hc).trans (h.buttons c hc), h.writes⟩
    exact ⟨hbetween.toOwed, hbetween, hs.2, Std.ExtTreeMap.getElem?_insert_self⟩
  refine howe.bind fun _ => hinsert.bind fun _ => holds_request (fun s hs ends e => ?_) fun s hs ends => ?_
  · exact (hs.1.write hs.2.1 hkept _ e ends).toOwed
  · have hbetween := hs.1.write hs.2.1 hkept (divertKeyboardKey original) .acknowledged ends
    have hin : cid ∈ s.armed.keys.buttons := by
      rw [Std.ExtTreeMap.mem_iff_isSome_getElem?, hs.2.2]
      rfl
    have hdiverted : (s.fw.write cid (divertKeyboardKey original) .acknowledged cid).diverted = true := by
      rw [Firmware.diverted_write]
      rfl
    have hsteady := hbetween.steady (iff_of_true hs.2.1 hin) fun _ => ⟨hdiverted, hcan⟩
    change Steady m found gRowFound kept before (Function.update spec cid s.armed.keys.buttons[cid]?) _ at hsteady
    rw [hs.2.2] at hsteady
    exact hsteady

end

end

end Session
end OpenLogi
