import OpenLogi.Pointer.Runs
/-!
# Newest — what the newest write of a mouse carries

The order of a route skips every write but the newest, so a newer write has to carry what an older one still owes.
`Required` is what the newest write of an online mouse carries; `Apt` is when an event keeps it.
-/
namespace OpenLogi
namespace Pointer

open Hid (DeviceRoute)
open Lib (Table)

/-- The write sets this saved value, or a DPI that an action picked. -/
def Load.sets (saved : SavedSpeed) : Load → Prop
  | .speed target => target = saved.restored
  | .app written => written = saved
  | .preset _ | .shift => True

instance decidableSets (saved : SavedSpeed) : (l : Load) → Decidable (l.sets saved)
  | .speed target => inferInstanceAs (Decidable (target = saved.restored))
  | .app written => inferInstanceAs (Decidable (written = saved))
  | .preset _ | .shift => isTrue trivial

/-- The write is of a mouse's kind, and with `exact` of the very value. -/
def Agrees (exact : Bool) (a b : SavedSpeed) : Prop := a.sameKind b = true ∧ (exact = true → a = b)

instance decidableAgrees (exact : Bool) (a b : SavedSpeed) : Decidable (Agrees exact a b) :=
  inferInstanceAs (Decidable (a.sameKind b = true ∧ (exact = true → a = b)))

namespace PointerSpeeds

/-- What the newest write of a mouse carries: the precision speed while the mode is on, and else no precision write but
the restore that is owed; with `exact`, also the speed saved for the mouse. -/
def Required (exact : Bool) (p : PointerSpeeds) (m : SpeedMouse) (w : Issue) : Prop :=
  if p.isOn m.key then w.load = .speed m.saved.precision ∧ w.led = some true
  else w.led ≠ some true ∧ (∀ g ∈ p.restore m.key, w.restore = some ⟨m.key, g⟩) ∧
    (exact = true → w.load.sets m.saved)

instance decidableRequired (exact : Bool) (p : PointerSpeeds) (m : SpeedMouse) (w : Issue) :
    Decidable (p.Required exact m w) :=
  inferInstanceAs (Decidable (if p.isOn m.key then w.load = .speed m.saved.precision ∧ w.led = some true
    else w.led ≠ some true ∧ (∀ g ∈ p.restore m.key, w.restore = some ⟨m.key, g⟩) ∧
      (exact = true → w.load.sets m.saved)))

/-- The newest write of every online mouse, the ones of `left` apart, carries what is required. -/
def Covered (exact : Bool) (left : List String) (p : PointerSpeeds) (issued : List Issue) : Prop :=
  ∀ m ∈ p.online, m.key ∉ left → ∀ w ∈ issued, w.ticket.queue = toString m.route → p.newest w = true →
    p.Required exact m w

/-- No two online mice share a queue. -/
def Alone (p : PointerSpeeds) : Prop :=
  ∀ m ∈ p.online, ∀ m' ∈ p.online, toString m.route = toString m'.route → m = m'

instance decidableAlone (p : PointerSpeeds) : Decidable p.Alone :=
  inferInstanceAs (Decidable (∀ m ∈ p.online, ∀ m' ∈ p.online, toString m.route = toString m'.route → m = m'))

variable {p p' q : PointerSpeeds} {issued : List Issue} {w : Issue} {exact : Bool} {m : SpeedMouse} {key k : String}

theorem Alone.of_online (h : p.Alone) (ho : p'.online = p.online) : p'.Alone := by
  unfold Alone
  rw [ho]
  exact h

/-! ## Numbers -/

theorem numbered_default : Numbered .default [] where
  counter := fun _ => rfl
  below := fun _ h => absurd h List.not_mem_nil

theorem requestValue_latest {s : WriteOrder.State Unit} (h : s.latest = s.next) :
    (s.requestValue ()).2.latest = s.next + 1 ∧ (s.requestValue ()).2.next = s.next + 1 := by
  have hle : s.pending.sup id ≤ s.next := h ▸ Nat.le_max_left _ _
  refine ⟨?_, rfl⟩
  show max (s.pending.sup id) (s.next + 1) = s.next + 1
  omega

theorem Numbered.placed (h : Numbered p issued) (hp : Placed p p' w.ticket) : Numbered p' (w :: issued) where
  counter := fun queue => by
    rw [hp.order]
    by_cases hq : queue = w.ticket.queue
    · subst hq
      obtain ⟨h1, h2⟩ := requestValue_latest (h.counter w.ticket.queue)
      rw [Function.update_self, h1, h2]
    · rw [Function.update_of_ne hq]
      exact h.counter queue
  below := fun v hv => by
    rw [hp.order]
    by_cases hq : v.ticket.queue = w.ticket.queue
    · rw [hq, Function.update_self, (requestValue_latest (h.counter w.ticket.queue)).2]
      rcases List.mem_cons.1 hv with rfl | hv
      · exact Nat.le_of_eq hp.number
      · have := h.below v hv
        rw [hq] at this
        omega
    · rw [Function.update_of_ne hq]
      rcases List.mem_cons.1 hv with rfl | hv
      · exact absurd rfl hq
      · exact h.below v hv

/-- After a write is numbered, it is the newest of its queue, and the other queues have the newest they had. -/
theorem newest_placed {v : Issue} (h : Numbered p issued) (hp : Placed p p' w.ticket) (hv : v ∈ w :: issued)
    (hn : p'.newest v = true) :
    v = w ∨ (v ∈ issued ∧ v.ticket.queue ≠ w.ticket.queue ∧ p.newest v = true) := by
  rcases List.mem_cons.1 hv with rfl | hv
  · exact Or.inl rfl
  · refine Or.inr ⟨hv, ?_⟩
    unfold newest WriteOrder.State.isCurrent at hn ⊢
    rw [hp.order] at hn
    by_cases hq : v.ticket.queue = w.ticket.queue
    · have hle := h.below v hv
      rw [hq, Function.update_self, (requestValue_latest (h.counter w.ticket.queue)).1] at hn
      rw [hq] at hle
      have : (p.order w.ticket.queue).next + 1 = v.ticket.number := by simpa using hn
      omega
    · rw [Function.update_of_ne hq] at hn
      exact ⟨hq, hn⟩

theorem newest_self (h : Numbered p issued) (hp : Placed p p' w.ticket) : p'.newest w = true := by
  unfold newest WriteOrder.State.isCurrent
  rw [hp.order, Function.update_self, (requestValue_latest (h.counter w.ticket.queue)).1, hp.number]
  exact beq_self_eq_true _

/-! ## What an operation has to show -/

theorem Required.of_same {m' : SpeedMouse} (h : p.Required exact m w) (hk : m'.key = m.key)
    (ha : Agrees exact m.saved m'.saved) (hon : p'.isOn m.key = p.isOn m.key)
    (hr : p'.restore m.key = p.restore m.key) : p'.Required exact m' w := by
  unfold Required at h ⊢
  rw [hk, hon, hr]
  split
  · rename_i h1
    rw [if_pos h1] at h
    rw [← SavedSpeed.precision_eq ha.1]
    exact h
  · rename_i h1
    rw [if_neg h1] at h
    exact ⟨h.1, h.2.1, fun he => ha.2 he ▸ h.2.2 he⟩

/-- A mouse of `p'` that the operation leaves as it was in `p`. -/
def Same (exact : Bool) (p p' : PointerSpeeds) (m' : SpeedMouse) : Prop :=
  ∃ m ∈ p.online, m'.key = m.key ∧ m'.route = m.route ∧ Agrees exact m.saved m'.saved ∧
    p'.isOn m.key = p.isOn m.key ∧ p'.restore m.key = p.restore m.key

/-- One write is numbered: its own mouse is covered by it, and the others are left alone. -/
theorem Covered.issue {left left' : List String} (h : Covered exact left p issued) (hn : Numbered p issued)
    (hp : Placed p p' w.ticket) (hother : ∀ m' ∈ p'.online, m'.key ∉ left' → toString m'.route ≠ w.ticket.queue →
      m'.key ∉ left ∧ Same exact p p' m')
    (hown : ∀ m' ∈ p'.online, m'.key ∉ left' → toString m'.route = w.ticket.queue → p'.Required exact m' w) :
    Covered exact left' p' (w :: issued) := by
  intro m' hm' hl v hv hq hnew
  rcases newest_placed hn hp hv hnew with rfl | ⟨hv, hne, hnew⟩
  · exact hown m' hm' hl hq.symm
  · obtain ⟨hl', m, hm, hk, hroute, ha, hon, hr⟩ := hother m' hm' hl fun hc => hne (hq.trans hc)
    exact (h m hm (hk ▸ hl') v hv (hroute ▸ hq) hnew).of_same hk ha hon hr

/-- Nothing is numbered. -/
theorem Covered.still {left left' : List String} (h : Covered exact left p issued) (ho : p'.order = p.order)
    (hsame : ∀ m' ∈ p'.online, m'.key ∉ left' → m'.key ∉ left ∧ Same exact p p' m') :
    Covered exact left' p' issued := by
  intro m' hm' hl v hv hq hnew
  obtain ⟨hl', m, hm, hk, hroute, ha, hon, hr⟩ := hsame m' hm' hl
  have hold : p.newest v = true := by
    unfold newest at hnew ⊢
    rwa [ho] at hnew
  exact (h m hm (hk ▸ hl') v hv (hroute ▸ hq) hold).of_same hk ha hon hr

theorem Agrees.refl (exact : Bool) (a : SavedSpeed) : Agrees exact a a := ⟨by simp [SavedSpeed.sameKind], fun _ => rfl⟩

/-! ## The modes -/

theorem isOn_congr (h : key ∈ p'.precision ↔ key ∈ p.precision) :
    p'.isOn key = p.isOn key :=
  Bool.eq_iff_iff.2 ((isOn_iff p' key).trans (h.trans (isOn_iff p key).symm))

theorem isOn_of_notMem (h : key ∉ p.precision) : p.isOn key = false :=
  Bool.eq_false_iff.2 fun hon => h ((isOn_iff p key).1 hon)

theorem isOn_endMode_self (p : PointerSpeeds) (key : String) : (p.endMode key).2.isOn key = false :=
  isOn_of_notMem fun h => (Table.mem_erase.1 h).2 rfl

theorem isOn_endMode_ne (p : PointerSpeeds) (hk : k ≠ key) :
    (p.endMode key).2.isOn k = p.isOn k :=
  isOn_congr (Table.mem_erase.trans ⟨And.left, fun h => ⟨h, hk⟩⟩)

theorem restore_endMode_self (p : PointerSpeeds) (key : String) :
    (p.endMode key).2.restore key = some (p.endMode key).1.generation := by
  simp [endMode, oweRestore]

theorem restore_endMode_ne (p : PointerSpeeds) (hk : k ≠ key) :
    (p.endMode key).2.restore k = p.restore k := by
  simp [endMode, Function.update_of_ne hk]

theorem isOn_startMode_self (p : PointerSpeeds) (key : String) : (p.startMode key).isOn key = true :=
  (isOn_iff _ _).2 (Table.mem_insert.2 (Or.inl rfl))

theorem isOn_startMode_ne (p : PointerSpeeds) (hk : k ≠ key) :
    (p.startMode key).isOn k = p.isOn k :=
  isOn_congr (Table.mem_insert.trans ⟨fun h => (h.resolve_left hk).1, fun h => Or.inr ⟨h, hk⟩⟩)

theorem restore_startMode_ne (p : PointerSpeeds) (hk : k ≠ key) :
    (p.startMode key).restore k = p.restore k := by
  simp [startMode, Function.update_of_ne hk]

/-! ## The writes that meet the requirement -/

theorem required_precision (hon : p.isOn m.key = true) (hl : w.load = .speed m.saved.precision)
    (hled : w.led = some true) : p.Required exact m w := by
  unfold Required
  rw [if_pos hon]
  exact ⟨hl, hled⟩

theorem required_off (hoff : p.isOn m.key = false) (hled : w.led = w.restore.map fun _ => false)
    (hr : ∀ g, p.restore m.key = some g → w.restore = some ⟨m.key, g⟩) (hs : exact = true → w.load.sets m.saved) :
    p.Required exact m w := by
  unfold Required
  rw [if_neg (by simp [hoff])]
  refine ⟨?_, hr, hs⟩
  rw [hled]
  cases w.restore <;> simp

theorem pendingRestore_of {g : Nat} (h : p.restore key = some g) :
    p.pendingRestore key = some ⟨key, g⟩ := by
  simp [pendingRestore, h]

variable {exact : Bool} {p : PointerSpeeds} {issued : List Issue}

/-- A write that changes no mode and no restore. -/
theorem Covered.request (h : Covered exact [] p issued) (hn : Numbered p issued) {route : DeviceRoute}
    (hw : w.ticket = (p.request route).1)
    (hown : ∀ m ∈ p.online, toString m.route = toString route → p.Required exact m w) :
    Covered exact [] (p.request route).2 (w :: issued) := by
  refine h.issue hn (hw ▸ placed_request p route) (fun m hm hl _ => ⟨hl, m, hm, rfl, rfl, Agrees.refl _ _, rfl, rfl⟩)
    fun m hm _ hq => ?_
  rw [hw] at hq
  exact hown m hm hq

theorem covered_reapply (h : Covered exact [] p issued) (hn : Numbered p issued) (key : String) (route : DeviceRoute)
    (saved : SavedSpeed)
    (hown : ∀ m ∈ p.online, toString m.route = toString route → m.key = key ∧ Agrees exact m.saved saved) :
    Covered exact [] (p.reapply key route saved).2 ((p.reapply key route saved).1.toList.map (·.issue) ++ issued) ∧
      Numbered (p.reapply key route saved).2 ((p.reapply key route saved).1.toList.map (·.issue) ++ issued) := by
  rcases p.reapply_cases key route saved with ⟨hon, he⟩ | ⟨hoff, target, -, rfl, he⟩ | ⟨-, -, -, he⟩
  · rw [he]
    refine ⟨h.request hn rfl fun m hm hq => ?_, hn.placed (placed_request p route)⟩
    obtain ⟨rfl, ha⟩ := hown m hm hq
    refine required_precision hon ?_ rfl
    rw [SavedSpeed.precision_eq ha.1]
    rfl
  · rw [he]
    refine ⟨h.request hn rfl fun m hm hq => ?_, hn.placed (placed_request p route)⟩
    obtain ⟨rfl, ha⟩ := hown m hm hq
    refine required_off hoff rfl (fun g hg => pendingRestore_of hg) fun hx => ?_
    rw [ha.2 hx]
    rfl
  · rw [he]
    exact ⟨h, hn⟩

theorem covered_shiftRestore (h : Covered exact [] p issued) (hn : Numbered p issued) {route : DeviceRoute}
    {own : Option Restore} {w : ShiftRestore} (hs : p.shiftRestore key route own = some (w, p'))
    (hown : ∀ m ∈ p.online, toString m.route = toString route → m.key = key) :
    Covered exact [] p' (w.issue :: issued) ∧ Numbered p' (w.issue :: issued) := by
  obtain ⟨hoff, rfl, rfl⟩ := shiftRestore_cases hs
  refine ⟨h.request hn rfl fun m hm hq => ?_, hn.placed (placed_request p route)⟩
  obtain rfl := hown m hm hq
  exact required_off hoff rfl (fun g hg => pendingRestore_of hg) fun _ => trivial

/-- The end of a mode, numbered on its mouse's route. -/
theorem covered_end (h : Covered exact [] p issued) (hn : Numbered p issued) (hal : p.Alone) (hm : m ∈ p.online)
    (hw : w.ticket = ((p.endMode m.key).2.request m.route).1) (hr : w.restore = some (p.endMode m.key).1)
    (hled : w.led = w.restore.map fun _ => false) (hs : w.load.sets m.saved) :
    Covered exact [] ((p.endMode m.key).2.request m.route).2 (w :: issued) := by
  have hp : Placed p ((p.endMode m.key).2.request m.route).2 w.ticket :=
    hw ▸ (placed_request _ m.route).of_order rfl
  refine h.issue hn hp (fun m' hm' hl hq => ?_) fun m' hm' _ hq => ?_
  · have hk : m'.key ≠ m.key := fun hk => by
      obtain rfl := Table.eq_of_key hm' hm hk
      exact hq (by rw [hw]; rfl)
    exact ⟨hl, m', hm', rfl, rfl, Agrees.refl _ _, isOn_endMode_ne p hk, restore_endMode_ne p hk⟩
  · obtain rfl := hal m' hm' m hm (by rw [hq, hw]; rfl)
    refine required_off (isOn_endMode_self p m'.key) hled (fun g hg => ?_) fun _ => hs
    have hg' : some (p.endMode m'.key).1.generation = some g := (restore_endMode_self p m'.key).symm.trans hg
    rw [hr, ← Option.some.inj hg']
    rfl

theorem covered_togglePrecision (h : Covered exact [] p issued) (hn : Numbered p issued) (hal : p.Alone)
    {key : Option String} {press : PrecisionPress} {on : Bool} {w : SpeedWrite}
    (ht : p.togglePrecision key press = some ((on, w), p')) :
    Covered exact [] p' (w.issue :: issued) ∧ Numbered p' (w.issue :: issued) := by
  obtain ⟨m, hm, ⟨-, rfl, rfl⟩ | ⟨-, rfl, rfl⟩⟩ := togglePrecision_cases ht
  · exact ⟨covered_end h hn hal hm rfl rfl rfl rfl, hn.placed ((placed_request _ m.route).of_order rfl)⟩
  · have hp : Placed p ((p.startMode m.key).request m.route).2 ((p.startMode m.key).request m.route).1 :=
      (placed_request _ m.route).of_order rfl
    refine ⟨h.issue hn hp (fun m' hm' hl hq => ?_) fun m' hm' _ hq => ?_, hn.placed hp⟩
    · have hk : m'.key ≠ m.key := fun hk => by
        obtain rfl := Table.eq_of_key hm' hm hk
        exact hq rfl
      exact ⟨hl, m', hm', rfl, rfl, Agrees.refl _ _, isOn_startMode_ne p hk, restore_startMode_ne p hk⟩
    · obtain rfl := hal m' hm' m hm hq
      exact required_precision (isOn_startMode_self p m'.key) rfl rfl

theorem online_presetPlace (p : PointerSpeeds) (route : DeviceRoute) : (p.presetPlace route).2.online = p.online := by
  rcases p.presetPlace_cases route with ⟨-, he⟩ | ⟨m, -, -, -, ⟨-, he⟩ | ⟨-, he⟩⟩
  · rw [he]
    rfl
  · rw [he]
    rfl
  · rw [he]
    rfl

theorem covered_presetPlace (h : Covered exact [] p issued) (hn : Numbered p issued) (hal : p.Alone)
    (route : DeviceRoute)
    (hfit : ∀ m ∈ p.online, toString m.route = toString route → m.route = route ∧ m.saved.isDpi = true)
    (target : Option SpeedTarget) :
    Covered exact [] (p.presetPlace route).2 ((p.presetPlace route).1.issue target :: issued) ∧
      Numbered (p.presetPlace route).2 ((p.presetPlace route).1.issue target :: issued) := by
  rcases p.presetPlace_cases route with ⟨hnone, he⟩ | ⟨m, hm, rfl, hd, ⟨-, he⟩ | ⟨hoff, he⟩⟩
  · rw [he]
    refine ⟨h.request hn rfl fun m hm hq => absurd (hfit m hm hq) (hnone m hm), hn.placed (placed_request p route)⟩
  · rw [he]
    exact ⟨covered_end h hn hal hm rfl rfl rfl trivial, hn.placed ((placed_request _ m.route).of_order rfl)⟩
  · rw [he]
    refine ⟨h.request hn rfl fun m' hm' hq => ?_, hn.placed (placed_request p m.route)⟩
    obtain rfl := hal m' hm' m hm hq
    exact required_off hoff rfl (fun g hg => pendingRestore_of hg) fun _ => trivial

/-! ### The settings app -/

/-- The state that a settings-app write to one mouse leaves, its place apart. -/
structure Told (p q : PointerSpeeds) (m : SpeedMouse) (saved : SavedSpeed) (restore : Option Restore) : Prop where
  order : q.order = p.order
  online : q.online = p.online.map (saveFor m.key saved) (saveFor_key m.key saved)
  off : q.isOn m.key = false
  other : ∀ k, k ≠ m.key → q.isOn k = p.isOn k ∧ q.restore k = p.restore k
  owed : ∀ g, q.restore m.key = some g → restore = some ⟨m.key, g⟩

theorem appWriteKey_told (p : PointerSpeeds) (m : SpeedMouse) (saved : SavedSpeed) :
    Told p (appWriteKey saved (none, p) m.key).2 m saved (appWriteKey saved (none, p) m.key).1 := by
  have hoff : ({ p with precision := p.precision.erase m.key } : PointerSpeeds).isOn m.key = false :=
    isOn_of_notMem fun h => (Table.mem_erase.1 h).2 rfl
  have hne : ∀ k, k ≠ m.key → ({ p with precision := p.precision.erase m.key } : PointerSpeeds).isOn k = p.isOn k :=
    fun k hk => isOn_congr (Table.mem_erase.trans ⟨And.left, fun h => ⟨h, hk⟩⟩)
  by_cases hc : (p.isOn m.key || (p.restore m.key).isSome) = true
  · simp only [appWriteKey, hc, if_true]
    refine ⟨rfl, rfl, hoff, fun k hk => ⟨hne k hk, restore_endMode_ne p hk⟩, fun g hg => ?_⟩
    have hg' : some (p.endMode m.key).1.generation = some g := (restore_endMode_self p m.key).symm.trans hg
    rw [← Option.some.inj hg']
    rfl
  · have hc' : (p.isOn m.key || (p.restore m.key).isSome) = false := by simpa using hc
    simp only [appWriteKey, hc', Bool.false_eq_true, if_false]
    refine ⟨rfl, rfl, hoff, fun k hk => ⟨hne k hk, rfl⟩, fun g hg => ?_⟩
    have hsome : (p.restore m.key).isSome = true := by
      rw [show p.restore m.key = some g from hg]
      rfl
    simp [hsome] at hc'

/-- A settings-app write for mice of its kind is told to the one mouse at its route, if that is online. -/
theorem appWrite_cases (hal : p.Alone) (route : DeviceRoute) (saved : SavedSpeed)
    (hfit : ∀ m ∈ p.online, toString m.route = toString route → m.route = route ∧ m.saved.sameKind saved = true) :
    (∃ m ∈ p.online, m.route = route ∧ m.saved.sameKind saved = true ∧ ∃ q restore, Told p q m saved restore ∧
        p.appWrite route saved = (⟨(q.request route).1, restore⟩, (q.request route).2)) ∨
      ((∀ m ∈ p.online, toString m.route ≠ toString route) ∧
        p.appWrite route saved = (⟨(p.request route).1, none⟩, (p.request route).2)) := by
  by_cases hsome : ∃ m ∈ p.online, toString m.route = toString route
  · obtain ⟨m, hm, hq⟩ := hsome
    obtain ⟨rfl, hkind⟩ := hfit m hm hq
    have hkeys : p.appKeys m.route saved = [m.key] := by
      have hone : p.online.rows.filter (fun mouse => mouse.route = m.route && mouse.saved.sameKind saved) = [m] := by
        refine Table.filter_eq_singleton hm (by simp [hkind]) fun b hb hp => ?_
        have hr : b.route = m.route := by
          simp only [Bool.and_eq_true, decide_eq_true_eq] at hp
          exact hp.1
        rw [hal b hb m hm (by rw [hr])]
      rw [appKeys, hone]
      rfl
    refine Or.inl ⟨m, hm, rfl, hkind, _, _, appWriteKey_told p m saved, ?_⟩
    unfold appWrite
    rw [hkeys]
    rfl
  · have hno : ∀ m ∈ p.online, toString m.route ≠ toString route := fun m hm hq => hsome ⟨m, hm, hq⟩
    have hkeys : p.appKeys route saved = [] := by
      have hnil : p.online.rows.filter (fun mouse => mouse.route = route && mouse.saved.sameKind saved) = [] := by
        refine List.filter_eq_nil_iff.2 fun b hb hp => ?_
        simp only [Bool.and_eq_true, decide_eq_true_eq] at hp
        exact hno b hb (by rw [hp.1])
      rw [appKeys, hnil]
      rfl
    refine Or.inr ⟨hno, ?_⟩
    unfold appWrite
    rw [hkeys]
    rfl

/-- The online mice after they were told: the told one has the new value. -/
theorem Told.mem {saved : SavedSpeed} {restore : Option Restore} (h : Told p q m saved restore) {m' : SpeedMouse}
    (hm' : m' ∈ q.online) :
    ∃ x ∈ p.online, (x.key = m.key ∧ m' = { x with saved }) ∨ (x.key ≠ m.key ∧ m' = x) := by
  rw [h.online] at hm'
  obtain ⟨x, hx, rfl⟩ := List.mem_map.1 hm'
  refine ⟨x, hx, ?_⟩
  unfold saveFor
  by_cases hk : x.key = m.key
  · exact Or.inl ⟨hk, if_pos hk⟩
  · exact Or.inr ⟨hk, if_neg hk⟩

theorem covered_appWrite (h : Covered exact [] p issued) (hn : Numbered p issued) (hal : p.Alone)
    (route : DeviceRoute) (saved : SavedSpeed)
    (hfit : ∀ m ∈ p.online, toString m.route = toString route → m.route = route ∧ m.saved.sameKind saved = true) :
    Covered exact [] (p.appWrite route saved).2 ((p.appWrite route saved).1.issue saved :: issued) ∧
      Numbered (p.appWrite route saved).2 ((p.appWrite route saved).1.issue saved :: issued) := by
  rcases appWrite_cases hal route saved hfit with ⟨m, hm, rfl, -, q, restore, ht, he⟩ | ⟨hno, he⟩
  · rw [he]
    have hp : Placed p (q.request m.route).2 (q.request m.route).1 := (placed_request q m.route).of_order ht.order
    refine ⟨h.issue hn hp (fun m' hm' _ hne => ?_) fun m' hm' _ heq => ?_, hn.placed hp⟩
    · obtain ⟨x, hx, ⟨hk, rfl⟩ | ⟨hk, rfl⟩⟩ := ht.mem hm'
      · obtain rfl := Table.eq_of_key hx hm hk
        exact absurd rfl hne
      · obtain ⟨hon, hr⟩ := ht.other m'.key hk
        exact ⟨List.not_mem_nil, m', hx, rfl, rfl, Agrees.refl _ _, hon, hr⟩
    · obtain ⟨x, hx, ⟨hk, rfl⟩ | ⟨hk, rfl⟩⟩ := ht.mem hm'
      · obtain rfl := Table.eq_of_key hx hm hk
        exact required_off ht.off rfl ht.owed fun _ => rfl
      · exact absurd (congrArg SpeedMouse.key (hal m' hx m hm heq)) hk
  · rw [he]
    exact ⟨h.request hn rfl fun m hm hq => absurd hq (hno m hm), hn.placed (placed_request p route)⟩

/-- The online mice keep their keys, routes and kinds. -/
def Roster (p p' : PointerSpeeds) : Prop :=
  ∀ m' ∈ p'.online, ∃ m ∈ p.online, m'.key = m.key ∧ m'.route = m.route ∧ m.saved.sameKind m'.saved = true

theorem roster_of_online (h : p'.online = p.online) : Roster p p' :=
  fun m hm => ⟨m, h ▸ hm, rfl, rfl, by simp [SavedSpeed.sameKind]⟩

theorem roster_appWrite (hal : p.Alone) (route : DeviceRoute) (saved : SavedSpeed)
    (hfit : ∀ m ∈ p.online, toString m.route = toString route → m.route = route ∧ m.saved.sameKind saved = true) :
    Roster p (p.appWrite route saved).2 := by
  rcases appWrite_cases hal route saved hfit with ⟨m, hm, rfl, hkind, q, restore, ht, he⟩ | ⟨-, he⟩
  · rw [he]
    intro m' hm'
    obtain ⟨x, hx, ⟨hk, rfl⟩ | ⟨-, rfl⟩⟩ := ht.mem hm'
    · obtain rfl := Table.eq_of_key hx hm hk
      exact ⟨x, hx, rfl, rfl, hkind⟩
    · exact ⟨m', hx, rfl, rfl, by simp [SavedSpeed.sameKind]⟩
  · rw [he]
    exact roster_of_online rfl

theorem alone_appWrite (hal : p.Alone) (route : DeviceRoute) (saved : SavedSpeed)
    (hfit : ∀ m ∈ p.online, toString m.route = toString route → m.route = route ∧ m.saved.sameKind saved = true) :
    (p.appWrite route saved).2.Alone := by
  intro a ha b hb hab
  obtain ⟨x, hx, hxk, hxr, -⟩ := roster_appWrite hal route saved hfit a ha
  obtain ⟨y, hy, hyk, hyr, -⟩ := roster_appWrite hal route saved hfit b hb
  have hxy : x = y := hal x hx y hy (by rw [← hxr, ← hyr]; exact hab)
  exact Table.eq_of_key ha hb (by rw [hxk, hyk, hxy])

/-! ### The reload -/

/-- The log after the writes of a reload so far. -/
def logged (writes : List SpeedWrite) (issued : List Issue) : List Issue := (writes.map (·.issue)).reverse ++ issued

theorem logged_append (writes : List SpeedWrite) (w : SpeedWrite) (issued : List Issue) :
    logged (writes ++ [w]) issued = w.issue :: logged writes issued := by
  simp [logged]

/-- A reload on its way: the online mice whose mode it ended and that it has not written yet are in `ended`. -/
structure Reloads (exact : Bool) (change : String → ReloadChange) (online : Table SpeedMouse.key)
    (issued : List Issue) (writes : List SpeedWrite) (ended : List String) (q : PointerSpeeds) : Prop where
  mice : q.online = online
  numbered : Numbered q (logged writes issued)
  covered : Covered exact ended q (logged writes issued)
  off : ∀ key, (change key).endsPrecision = true → q.isOn key = false
  stopped : ∀ key ∈ ended, (change key).endsPrecision = true
  nodup : ended.Nodup

variable {change : String → ReloadChange} {online : Table SpeedMouse.key}

theorem Reloads.write {writes : List SpeedWrite} {ended ended' : List String}
    (h : Reloads exact change online issued writes ended q) (q' : PointerSpeeds) (restore : Option Restore)
    (hal : q.Alone) {mouse : SpeedMouse} (hm : m ∈ online) (hk : mouse.key = m.key) (hroute : mouse.route = m.route)
    (ha : Agrees exact m.saved mouse.saved) (ho : q'.order = q.order) (hon : q'.online = q.online)
    (hp : q'.precision = q.precision) (hr : ∀ k, k ≠ m.key → q'.restore k = q.restore k) (hoff : q.isOn m.key = false)
    (hl : ∀ k, k ≠ m.key → k ∉ ended' → k ∉ ended) (hsub : ∀ k ∈ ended', k ∈ ended) (hnd : ended'.Nodup)
    (howed : ∀ g, q'.restore m.key = some g → restore = some ⟨m.key, g⟩) :
    Reloads exact change online issued (writes ++ [(q'.write mouse.route mouse.saved.restored restore).1]) ended'
      (q'.write mouse.route mouse.saved.restored restore).2 where
  mice := hon.trans h.mice
  numbered := by
    rw [logged_append]
    exact h.numbered.placed ((placed_request q' mouse.route).of_order ho)
  covered := by
    rw [logged_append]
    have hsame : ∀ k, q'.isOn k = q.isOn k := fun k => by rw [isOn, isOn, hp]
    refine h.covered.issue h.numbered ((placed_request q' mouse.route).of_order ho) (fun m' hm' hl' hq => ?_)
      fun m' hm' _ hq => ?_
    · have hm2 : m' ∈ q.online := hon ▸ hm'
      have hne : m'.key ≠ m.key := fun hkey => by
        obtain rfl := Table.eq_of_key hm2 (h.mice ▸ hm) hkey
        exact hq (by rw [← hroute]; rfl)
      exact ⟨hl m'.key hne hl', m', hm2, rfl, rfl, Agrees.refl _ _, hsame m'.key, hr m'.key hne⟩
    · have hm2 : m' ∈ q.online := hon ▸ hm'
      obtain rfl := hal m' hm2 m (h.mice ▸ hm) (by rw [hq, ← hroute]; rfl)
      refine required_off ((hsame m'.key).trans hoff) rfl howed fun hx => ?_
      rw [ha.2 hx]
      rfl
  off := fun key hc => by
    have h1 := h.off key hc
    rwa [isOn, ← hp] at h1
  stopped := fun key hkey => h.stopped key (hsub key hkey)
  nodup := hnd

theorem reloadMouse_reloads {writes : List SpeedWrite} {ended : List String}
    (h : Reloads exact change online issued writes ended q) (hal : q.Alone) {mouse : SpeedMouse}
    (hown : ∃ m ∈ online, m.key = mouse.key ∧ m.route = mouse.route ∧ Agrees exact m.saved mouse.saved) :
    let acc := reloadMouse change (writes, ended, q) mouse
    Reloads exact change online issued acc.1 acc.2.1 acc.2.2 ∧ mouse.key ∉ acc.2.1 ∧ ∀ k ∈ acc.2.1, k ∈ ended := by
  obtain ⟨m, hm, hk, hroute, ha⟩ := hown
  by_cases hmem : mouse.key ∈ ended
  · have hstep : reloadMouse change (writes, ended, q) mouse =
        (writes ++ [((q.oweRestore mouse.key).2.write mouse.route mouse.saved.restored
          (some (q.oweRestore mouse.key).1)).1], ended.erase mouse.key, ((q.oweRestore mouse.key).2.write mouse.route
          mouse.saved.restored (some (q.oweRestore mouse.key).1)).2) := by
      simp only [reloadMouse, if_pos hmem]
    rw [hstep]
    have hoff := h.off mouse.key (h.stopped mouse.key hmem)
    refine ⟨?_, h.nodup.not_mem_erase, fun k hkm => List.mem_of_mem_erase hkm⟩
    refine h.write (q.oweRestore mouse.key).2 (some (q.oweRestore mouse.key).1) hal hm hk.symm hroute.symm ha rfl rfl
      rfl (fun k hne => ?_) (hk ▸ hoff) (fun k hne hkm => ?_) (fun k hkm => List.mem_of_mem_erase hkm) (h.nodup.erase _)
      fun g hg => ?_
    · simp [Function.update_of_ne (hk ▸ hne)]
    · exact fun hc => hkm ((List.mem_erase_of_ne (hk ▸ hne)).2 hc)
    · rw [hk] at hg ⊢
      have hg' : q.restoreGeneration + 1 = g := by simpa using hg
      rw [← hg']
      rfl
  · have hkeep : Reloads exact change online issued writes ended q ∧ mouse.key ∉ ended ∧ ∀ k ∈ ended, k ∈ ended :=
      ⟨h, hmem, fun _ hkm => hkm⟩
    have hwrite : ∀ restore, (change mouse.key).speed = true →
        (∀ g, q.restore m.key = some g → restore = some ⟨m.key, g⟩) →
        Reloads exact change online issued (writes ++ [(q.write mouse.route mouse.saved.restored restore).1]) ended
          (q.write mouse.route mouse.saved.restored restore).2 ∧ mouse.key ∉ ended ∧ ∀ k ∈ ended, k ∈ ended := by
      intro restore hspeed howed
      have hoff := h.off mouse.key (by simp [ReloadChange.endsPrecision, hspeed])
      exact ⟨h.write q restore hal hm hk.symm hroute.symm ha rfl rfl rfl (fun _ _ => rfl) (hk ▸ hoff)
        (fun _ _ hkm => hkm) (fun _ hkm => hkm) h.nodup howed, hmem, fun _ hkm => hkm⟩
    simp only [reloadMouse, if_neg hmem]
    split
    · rename_i hspeed
      cases hpend : q.pendingRestore mouse.key with
      | some restore =>
        refine hwrite (some restore) hspeed fun g hg => ?_
        rw [← hpend, ← hk]
        exact pendingRestore_of hg
      | none =>
        have hnone : ∀ g, q.restore m.key = some g → (none : Option Restore) = some ⟨m.key, g⟩ := fun g hg => by
          rw [hk] at hg
          rw [pendingRestore_of hg] at hpend
          cases hpend
        cases hsaved : mouse.saved with
        | scaled speed =>
          cases speed with
          | some speed =>
            have := hwrite none hspeed hnone
            rw [hsaved] at this
            exact this
          | none => exact hkeep
        | dpi d => exact hkeep
    · exact hkeep

theorem reloadMice_reloads : ∀ (mice : List SpeedMouse) {writes : List SpeedWrite} {ended : List String}
    {q : PointerSpeeds}, Reloads exact change online issued writes ended q → q.Alone →
    (∀ mouse ∈ mice, ∃ m ∈ online, m.key = mouse.key ∧ m.route = mouse.route ∧ Agrees exact m.saved mouse.saved) →
    let acc := mice.foldl (reloadMouse change) (writes, ended, q)
    Reloads exact change online issued acc.1 acc.2.1 acc.2.2 ∧ (∀ mouse ∈ mice, mouse.key ∉ acc.2.1) ∧
      ∀ k ∈ acc.2.1, k ∈ ended
  | [], writes, ended, q, h, _, _ => ⟨h, fun _ hm => absurd hm List.not_mem_nil, fun _ hk => hk⟩
  | mouse :: mice, writes, ended, q, h, hal, hown => by
    obtain ⟨h1, hgone, hsub⟩ := reloadMouse_reloads h hal (hown mouse (by simp))
    have hal1 : (reloadMouse change (writes, ended, q) mouse).2.2.Alone := by
      unfold Alone
      rw [h1.mice, ← h.mice]
      exact hal
    obtain ⟨h2, hall, hsub2⟩ := reloadMice_reloads mice h1 hal1 fun v hv => hown v (by simp [hv])
    refine ⟨h2, fun v hv => ?_, fun k hk => hsub k (hsub2 k hk)⟩
    rcases List.mem_cons.1 hv with rfl | hv
    · exact fun hc => hgone (hsub2 v.key hc)
    · exact hall v hv

/-- The restores that a reload leaves to the reconnects are those of the offline mice. -/
theorem oweAll_same : ∀ (ended : List String) (q : PointerSpeeds),
    let q' := ended.foldl (fun p key => (p.oweRestore key).2) q
    q'.order = q.order ∧ q'.online = q.online ∧ q'.precision = q.precision ∧
      ∀ k, k ∉ ended → q'.restore k = q.restore k
  | [], q => ⟨rfl, rfl, rfl, fun _ _ => rfl⟩
  | key :: ended, q => by
    obtain ⟨h1, h2, h3, h4⟩ := oweAll_same ended (q.oweRestore key).2
    refine ⟨h1, h2, h3, fun k hk => ?_⟩
    rw [List.mem_cons, not_or] at hk
    refine (h4 k hk.2).trans ?_
    simp [Function.update_of_ne hk.1]

theorem covered_reload (h : Covered exact [] p issued) (hn : Numbered p issued) (hal : p.Alone)
    (change : String → ReloadChange) (mice : List SpeedMouse)
    (hown : ∀ mouse ∈ mice, ∃ m ∈ p.online, m.key = mouse.key ∧ m.route = mouse.route ∧
      Agrees exact m.saved mouse.saved)
    (hall : ∀ m ∈ p.online, ∃ mouse ∈ mice, mouse.key = m.key) :
    Covered exact [] (p.reload change mice).2 (logged (p.reload change mice).1 issued) ∧
      Numbered (p.reload change mice).2 (logged (p.reload change mice).1 issued) ∧
      (p.reload change mice).2.online = p.online := by
  have hstart : Reloads exact change p.online issued [] (p.precision.rows.filter fun key => (change key).endsPrecision)
      { p with precision := p.precision.filter fun key => !(change key).endsPrecision } := by
    refine ⟨rfl, ⟨hn.counter, hn.below⟩, h.still rfl fun m' hm' hl => ⟨List.not_mem_nil, m', hm', rfl, rfl,
      Agrees.refl _ _, ?_, rfl⟩, fun key hc => ?_, fun key hkey => (List.mem_filter.1 hkey).2, ?_⟩
    · refine isOn_congr (Table.mem_filter.trans ⟨And.left, fun hon => ⟨hon, ?_⟩⟩)
      have hl' : ¬ (m'.key ∈ p.precision.rows ∧ (change m'.key).endsPrecision = true) :=
        fun hc => hl (List.mem_filter.2 hc)
      have hfalse : (change m'.key).endsPrecision = false := Bool.eq_false_iff.2 fun hc => hl' ⟨hon, hc⟩
      simp [hfalse]
    · refine isOn_of_notMem fun hmem => ?_
      have := (Table.mem_filter.1 hmem).2
      simp [hc] at this
    · have hnd := p.precision.nodup
      rw [List.map_id] at hnd
      exact hnd.filter _
  obtain ⟨hend, hgone, -⟩ := reloadMice_reloads mice hstart (fun m hm m' hm' => hal m hm m' hm') hown
  unfold reload
  dsimp only at hend ⊢
  generalize mice.foldl (reloadMouse change) ([], p.precision.rows.filter fun key => (change key).endsPrecision,
    { p with precision := p.precision.filter fun key => !(change key).endsPrecision }) = acc at hend hgone ⊢
  obtain ⟨writes, ended, q⟩ := acc
  dsimp only at hend hgone ⊢
  obtain ⟨ho, hon, hp, hr⟩ := oweAll_same ended q
  have hcov : Covered exact [] (ended.foldl (fun p key => (p.oweRestore key).2) q) (logged writes issued) := by
    refine hend.covered.still ho fun m' hm' _ => ?_
    rw [hon] at hm'
    have hleft : m'.key ∉ ended := by
      obtain ⟨mouse, hmouse, hk⟩ := hall m' (hend.mice ▸ hm')
      exact hk ▸ hgone mouse hmouse
    refine ⟨hleft, m', hm', rfl, rfl, Agrees.refl _ _, ?_, hr m'.key hleft⟩
    rw [isOn, isOn, hp]
  refine ⟨hcov, ⟨fun queue => ?_, fun w hw => ?_⟩, hon.trans hend.mice⟩
  · rw [ho]
    exact hend.numbered.counter queue
  · rw [ho]
    exact hend.numbered.below w hw

end PointerSpeeds
end Pointer
end OpenLogi
