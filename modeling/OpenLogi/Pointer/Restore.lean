import OpenLogi.Pointer.Runs
/-!
# Restore — what a mouse whose precision mode ended is owed

An entry of `restore` appears under a generation that no numbered write carries yet, and nothing but a press that turns
the mode on again and the landing of a write with the entry's own generation takes it away.
-/
namespace OpenLogi
namespace Pointer

open Hid (DeviceRoute)
open Lib (Table run run_inv run_cons Along)

namespace PointerSpeeds

/-- The mouse moves at the precision speed, or may still. -/
def Bound (p : PointerSpeeds) (key : String) : Prop := p.isOn key = true ∨ (p.restore key).isSome = true

/-- What every operation keeps: a new entry has a new generation, and a mouse that was bound stays bound, unless the
operation still has to owe it its restore (`left`). -/
structure Keeps (left : List String) (p p' : PointerSpeeds) : Prop where
  generation : p.restoreGeneration ≤ p'.restoreGeneration
  entry : ∀ key g, p'.restore key = some g →
    p.restore key = some g ∨ (p.restoreGeneration < g ∧ g ≤ p'.restoreGeneration)
  bound : ∀ key, p.Bound key → p'.Bound key ∨ key ∈ left

theorem Keeps.refl (p : PointerSpeeds) : Keeps [] p p :=
  ⟨Nat.le_refl _, fun _ _ h => Or.inl h, fun _ h => Or.inl h⟩

variable {p p' q : PointerSpeeds} {left : List String}

/-- The restores and the mode are left alone. -/
theorem Keeps.still (hp : p'.precision = p.precision) (hr : p'.restore = p.restore)
    (hg : p'.restoreGeneration = p.restoreGeneration) : Keeps [] p p' where
  generation := by rw [hg]
  entry := fun key g h => Or.inl (by rwa [hr] at h)
  bound := fun key h => Or.inl (by simpa [Bound, isOn, hp, hr] using h)

theorem Keeps.trans {left' : List String} (h1 : Keeps left p q) (h2 : Keeps left' q p')
    (hl : ∀ key ∈ left, p'.Bound key ∨ key ∈ left') : Keeps left' p p' where
  generation := Nat.le_trans h1.generation h2.generation
  entry := fun key g hg => by
    have hle := h1.generation
    have hle' := h2.generation
    rcases h2.entry key g hg with h | ⟨h, h'⟩
    · rcases h1.entry key g h with h | ⟨h, h'⟩
      · exact Or.inl h
      · exact Or.inr ⟨h, Nat.le_trans h' hle'⟩
    · exact Or.inr ⟨Nat.lt_of_le_of_lt hle h, h'⟩
  bound := fun key hb => by
    rcases h1.bound key hb with h | h
    · exact h2.bound key h
    · exact hl key h

theorem Keeps.after (h1 : Keeps [] p q) (h2 : Keeps left q p') :
    Keeps left p p' :=
  h1.trans h2 (fun _ h => absurd h List.not_mem_nil)

theorem bound_oweRestore (p : PointerSpeeds) (key : String) : (p.oweRestore key).2.Bound key :=
  Or.inr (by simp)

theorem keeps_oweRestore (p : PointerSpeeds) (key : String) : Keeps [] p (p.oweRestore key).2 where
  generation := Nat.le_succ _
  entry := fun k g h => by
    by_cases hk : k = key
    · subst hk
      have hg : p.restoreGeneration + 1 = g := by simpa using h
      simp only [oweRestore_restoreGeneration]
      exact Or.inr ⟨by omega, by omega⟩
    · exact Or.inl (by simpa [Function.update_of_ne hk] using h)
  bound := fun k h => Or.inl (by
    by_cases hk : k = key
    · subst hk
      exact bound_oweRestore p k
    · simpa [Bound, isOn, Function.update_of_ne hk] using h)

theorem keeps_request (p : PointerSpeeds) (route : DeviceRoute) : Keeps [] p (p.request route).2 :=
  .still rfl rfl rfl

theorem Keeps.write (h : Keeps left p q) (route : DeviceRoute) (target : SpeedTarget) (restore : Option Restore) :
    Keeps left p (q.write route target restore).2 :=
  ⟨h.generation, h.entry, h.bound⟩

/-- The modes of `left` are turned off. -/
theorem keeps_filter (p : PointerSpeeds) (f : String → Bool) :
    Keeps (p.precision.rows.filter f) p { p with precision := p.precision.filter fun key => !f key } where
  generation := Nat.le_refl _
  entry := fun _ _ h => Or.inl h
  bound := fun key h => by
    by_cases hf : f key = true
    · rcases h with h | h
      · exact Or.inr (List.mem_filter.2 ⟨(isOn_iff p key).1 h, hf⟩)
      · exact Or.inl (Or.inr h)
    · refine Or.inl (h.imp (fun h => ?_) id)
      rw [isOn_iff] at h ⊢
      exact Table.mem_filter.2 ⟨h, by simpa using hf⟩

theorem keeps_erase (p : PointerSpeeds) (key : String) :
    Keeps [key] p { p with precision := p.precision.erase key } where
  generation := Nat.le_refl _
  entry := fun _ _ h => Or.inl h
  bound := fun k h => by
    by_cases hk : k = key
    · exact Or.inr (by simp [hk])
    · refine Or.inl (h.imp (fun h => ?_) id)
      rw [isOn_iff] at h ⊢
      exact Table.mem_erase.2 ⟨h, hk⟩

/-- The end of a mode. -/
theorem keeps_end (p : PointerSpeeds) (key : String) :
    Keeps [] p ({ p with precision := p.precision.erase key }.oweRestore key).2 :=
  (keeps_erase p key).trans (keeps_oweRestore _ key) fun k hk => by
    rw [List.mem_singleton.1 hk]
    exact Or.inl (bound_oweRestore _ key)

/-- The restore that a numbered write carries is an entry of its time. -/
def Carried (p : PointerSpeeds) (restore : Option Restore) : Prop :=
  ∀ r, restore = some r → r.generation ≤ p.restoreGeneration

/-- Every entry is of a generation that has been given out. -/
def Given (p : PointerSpeeds) : Prop := ∀ key g, p.restore key = some g → g ≤ p.restoreGeneration

theorem Keeps.given (h : Keeps left p p') (hp : p.Given) : p'.Given := by
  intro key g hg
  rcases h.entry key g hg with h1 | ⟨-, h1⟩
  · exact Nat.le_trans (hp key g h1) h.generation
  · exact h1

theorem carried_none (p : PointerSpeeds) : p.Carried none := fun _ h => by cases h

theorem carried_oweRestore (p : PointerSpeeds) (key : String) :
    (p.oweRestore key).2.Carried (some (p.oweRestore key).1) := by
  intro r hr
  cases hr
  exact Nat.le_refl _

theorem carried_pendingRestore (hp : p.Given) (key : String) :
    p.Carried (p.pendingRestore key) := by
  intro r hr
  obtain ⟨g, hg, rfl⟩ := Option.map_eq_some_iff.1 hr
  exact hp key g hg

theorem Carried.mono {restore : Option Restore} (h : p.Carried restore)
    (hg : p.restoreGeneration ≤ p'.restoreGeneration) : p'.Carried restore :=
  fun r hr => Nat.le_trans (h r hr) hg

/-! ## Operations -/

theorem keeps_startMode (p : PointerSpeeds) (key : String) : Keeps [] p (p.startMode key) where
  generation := Nat.le_refl _
  entry := fun k g h => by
    by_cases hk : k = key
    · simp [startMode, hk] at h
    · exact Or.inl (by simpa [startMode, Function.update_of_ne hk] using h)
  bound := fun k h => Or.inl (by
    by_cases hk : k = key
    · exact Or.inl ((isOn_iff _ _).2 (Table.mem_insert.2 (Or.inl hk)))
    · refine h.imp (fun h => ?_) fun h => ?_
      · rw [isOn_iff] at h ⊢
        exact Table.mem_insert.2 (Or.inr ⟨h, hk⟩)
      · simpa [startMode, Function.update_of_ne hk] using h)

theorem togglePrecision_keeps {key : Option String} {press : PrecisionPress} {on : Bool} {w : SpeedWrite}
    (h : p.togglePrecision key press = some ((on, w), p')) : Keeps [] p p' ∧ p'.Carried w.restore := by
  obtain ⟨m, -, ⟨-, rfl, rfl⟩ | ⟨-, rfl, rfl⟩⟩ := togglePrecision_cases h
  · exact ⟨(keeps_end p m.key).after (keeps_request _ m.route), carried_oweRestore _ m.key⟩
  · exact ⟨(keeps_startMode p m.key).after (keeps_request _ m.route), carried_none _⟩

theorem reapply_keeps (hp : p.Given) (key : String) (route : DeviceRoute) (saved : SavedSpeed) :
    Keeps [] p (p.reapply key route saved).2 ∧
      ∀ w, (p.reapply key route saved).1 = some w → (p.reapply key route saved).2.Carried w.restore := by
  rcases p.reapply_cases key route saved with ⟨-, h⟩ | ⟨-, target, -, -, h⟩ | ⟨-, -, -, h⟩
  · rw [h]
    refine ⟨keeps_request p route, fun w hw => ?_⟩
    cases hw
    exact carried_none _
  · rw [h]
    refine ⟨keeps_request p route, fun w hw => ?_⟩
    cases hw
    exact carried_pendingRestore hp key
  · rw [h]
    exact ⟨.refl p, fun w hw => by cases hw⟩

theorem presetPlace_keeps (hp : p.Given) (route : DeviceRoute) :
    Keeps [] p (p.presetPlace route).2 ∧ (p.presetPlace route).2.Carried (p.presetPlace route).1.restore := by
  rcases p.presetPlace_cases route with ⟨-, h⟩ | ⟨m, -, -, -, ⟨-, h⟩ | ⟨-, h⟩⟩
  · rw [h]
    exact ⟨keeps_request p route, carried_none _⟩
  · rw [h]
    exact ⟨(keeps_end p m.key).after (keeps_request _ route), carried_oweRestore _ m.key⟩
  · rw [h]
    exact ⟨keeps_request p route, carried_pendingRestore hp m.key⟩

/-! ### The settings app -/

theorem appWriteKey_keeps (saved : SavedSpeed) (restore : Option Restore) (p : PointerSpeeds) (key : String)
    (hr : p.Carried restore) : Keeps [] p (appWriteKey saved (restore, p) key).2 ∧
      (appWriteKey saved (restore, p) key).2.Carried (appWriteKey saved (restore, p) key).1 := by
  by_cases hb : p.Bound key
  · have hc : (p.isOn key || (p.restore key).isSome) = true := by simpa [Bound] using hb
    simp only [appWriteKey, hc, if_true]
    exact ⟨(keeps_end p key).after (.still rfl rfl rfl), carried_oweRestore _ key⟩
  · have hc : (p.isOn key || (p.restore key).isSome) = false := by simpa [Bound] using hb
    simp only [appWriteKey, hc, Bool.false_eq_true, if_false]
    refine ⟨⟨Nat.le_refl _, fun _ _ h => Or.inl h, fun k hk => ?_⟩, hr⟩
    rcases (keeps_erase p key).bound k hk with h | h
    · exact Or.inl h
    · rw [List.mem_singleton.1 h] at hk
      exact absurd hk hb

theorem appWriteKeys_keeps (saved : SavedSpeed) : ∀ (keys : List String) (restore : Option Restore)
    (p : PointerSpeeds), p.Carried restore →
    Keeps [] p (keys.foldl (appWriteKey saved) (restore, p)).2 ∧
      (keys.foldl (appWriteKey saved) (restore, p)).2.Carried (keys.foldl (appWriteKey saved) (restore, p)).1
  | [], _, p, hr => ⟨.refl p, hr⟩
  | key :: keys, restore, p, hr => by
    obtain ⟨h1, h2⟩ := appWriteKey_keeps saved restore p key hr
    obtain ⟨h3, h4⟩ := appWriteKeys_keeps saved keys _ _ h2
    exact ⟨h1.after h3, h4⟩

theorem appWrite_keeps (p : PointerSpeeds) (route : DeviceRoute) (saved : SavedSpeed) :
    Keeps [] p (p.appWrite route saved).2 ∧ (p.appWrite route saved).2.Carried (p.appWrite route saved).1.restore := by
  obtain ⟨h1, h2⟩ := appWriteKeys_keeps saved (p.appKeys route saved) none p (carried_none p)
  exact ⟨h1.after (keeps_request _ route), h2⟩

/-! ### The reload -/

/-- What a reload has done so far keeps: the modes in `ended` are still to be owed their restores. -/
structure Reloading (p : PointerSpeeds) (acc : List SpeedWrite × List String × PointerSpeeds) : Prop where
  keeps : Keeps acc.2.1 p acc.2.2
  carried : ∀ w ∈ acc.1, acc.2.2.Carried w.restore

/-- A write that is numbered with the restore its mouse is owed by then. -/
theorem reloading_owed {writes : List SpeedWrite} {ended : List String} (h : Reloading p (writes, ended, q))
    (mouse : SpeedMouse) (target : SpeedTarget) :
    Reloading p (writes ++ [((q.oweRestore mouse.key).2.write mouse.route target (some (q.oweRestore mouse.key).1)).1],
      ended.erase mouse.key,
      ((q.oweRestore mouse.key).2.write mouse.route target (some (q.oweRestore mouse.key).1)).2) where
  keeps := by
    have hkeeps : Keeps (ended.erase mouse.key) p (q.oweRestore mouse.key).2 := by
      have howe := keeps_oweRestore q mouse.key
      refine h.keeps.trans ⟨howe.generation, howe.entry, fun k hb => ?_⟩ fun k hk => ?_
      · exact (howe.bound k hb).imp id fun h => absurd h List.not_mem_nil
      · by_cases hkey : k = mouse.key
        · rw [hkey]
          exact Or.inl (bound_oweRestore q mouse.key)
        · exact Or.inr ((List.mem_erase_of_ne hkey).2 hk)
    exact hkeeps.write mouse.route target (some (q.oweRestore mouse.key).1)
  carried := by
    intro w hw
    rcases List.mem_append.1 hw with hw | hw
    · exact (h.carried w hw).mono (Nat.le_succ _)
    · rw [List.mem_singleton.1 hw]
      exact carried_oweRestore q mouse.key

theorem reloading_write {writes : List SpeedWrite} {ended : List String} (h : Reloading p (writes, ended, q))
    (mouse : SpeedMouse) (target : SpeedTarget) {restore : Option Restore} (hr : q.Carried restore) :
    Reloading p
      (writes ++ [(q.write mouse.route target restore).1], ended, (q.write mouse.route target restore).2) where
  keeps := h.keeps.write mouse.route target restore
  carried := by
    intro w hw
    rcases List.mem_append.1 hw with hw | hw
    · exact h.carried w hw
    · rw [List.mem_singleton.1 hw]
      exact hr

theorem reloadMouse_keeps (hp : p.Given) (change : String → ReloadChange)
    {acc : List SpeedWrite × List String × PointerSpeeds} (h : Reloading p acc) (mouse : SpeedMouse) :
    Reloading p (reloadMouse change acc mouse) := by
  obtain ⟨writes, ended, q⟩ := acc
  have hcarried := carried_pendingRestore (h.keeps.given hp) mouse.key
  unfold reloadMouse
  dsimp only
  split
  · exact reloading_owed h mouse _
  · split
    · split
      · rename_i restore saved hpend
        rw [hpend] at hcarried
        exact reloading_write h mouse _ hcarried
      · exact reloading_write h mouse _ (carried_none _)
      · exact h
    · exact h

theorem oweAll_keeps : ∀ (ended : List String) (p : PointerSpeeds),
    Keeps [] p (ended.foldl (fun p key => (p.oweRestore key).2) p) ∧
      ∀ key ∈ ended, (ended.foldl (fun p key => (p.oweRestore key).2) p).Bound key
  | [], p => ⟨.refl p, fun _ h => absurd h List.not_mem_nil⟩
  | key :: ended, p => by
    obtain ⟨hk, hb⟩ := oweAll_keeps ended (p.oweRestore key).2
    refine ⟨(keeps_oweRestore p key).after hk, fun k hm => ?_⟩
    rcases List.mem_cons.1 hm with rfl | hm
    · exact (hk.bound k (bound_oweRestore p k)).resolve_right List.not_mem_nil
    · exact hb k hm

theorem reload_keeps (hp : p.Given) (change : String → ReloadChange) (mice : List SpeedMouse) :
    Keeps [] p (p.reload change mice).2 ∧
      ∀ w ∈ (p.reload change mice).1, (p.reload change mice).2.Carried w.restore := by
  have hstart : Reloading p ([], p.precision.rows.filter fun key => (change key).endsPrecision,
      { p with precision := p.precision.filter fun key => !(change key).endsPrecision }) :=
    ⟨keeps_filter p _, fun _ h => absurd h List.not_mem_nil⟩
  have hloop : ∀ (mice : List SpeedMouse) (acc : List SpeedWrite × List String × PointerSpeeds), Reloading p acc →
      Reloading p (mice.foldl (reloadMouse change) acc) := by
    intro mice
    induction mice with
    | nil => exact fun _ h => h
    | cons mouse mice ih => exact fun acc h => ih _ (reloadMouse_keeps hp change h mouse)
  have hend := hloop mice _ hstart
  obtain ⟨hk, hb⟩ := oweAll_keeps (mice.foldl (reloadMouse change) ([], p.precision.rows.filter fun key =>
    (change key).endsPrecision, { p with precision := p.precision.filter fun key => !(change key).endsPrecision })).2.1
    (mice.foldl (reloadMouse change) ([], p.precision.rows.filter fun key =>
    (change key).endsPrecision, { p with precision := p.precision.filter fun key => !(change key).endsPrecision })).2.2
  exact ⟨hend.keeps.trans hk fun key hm => Or.inl (hb key hm), fun w hw => (hend.carried w hw).mono hk.generation⟩

end PointerSpeeds

/-! ## Runs -/

/-- Every entry, and every restore that a numbered write carries, is of a generation that has been given out. -/
structure Dated (s : Sys) : Prop where
  given : s.speeds.Given
  issued : ∀ w ∈ s.issued, s.speeds.Carried w.restore

theorem dated_init : Dated Sys.init where
  given := fun _ _ h => by cases h
  issued := fun _ h => absurd h List.not_mem_nil

/-- The event is the landing of a write that carries the restore the mouse is owed now. -/
def Ev.landsOwn (key : String) (s : Sys) : Ev → Bool
  | .land w => w.restore.isSome && w.restore = s.speeds.pendingRestore key
  | _ => false

variable {s : Sys}

theorem Dated.log (h : Dated s) {p' : PointerSpeeds} {writes : List Issue} (hk : PointerSpeeds.Keeps [] s.speeds p')
    (hw : ∀ w ∈ writes, p'.Carried w.restore) : Dated (s.log p' writes) where
  given := hk.given h.given
  issued := fun w hm => by
    rcases List.mem_append.1 hm with hm | hm
    · exact hw w (List.mem_reverse.1 hm)
    · exact (h.issued w hm).mono hk.generation

/-- What an event does to what is owed: an entry is old or newer than every generation given out, and a bound mouse
stays bound unless the event is the landing of its own restore. -/
structure After (e : Ev) (s s' : Sys) : Prop where
  dated : Dated s'
  generation : s.speeds.restoreGeneration ≤ s'.speeds.restoreGeneration
  entry : ∀ key g, s'.speeds.restore key = some g → s.speeds.restore key = some g ∨ s.speeds.restoreGeneration < g
  bound : ∀ key, e.landsOwn key s = false → s.speeds.Bound key → s'.speeds.Bound key

theorem after_log {e : Ev} (h : Dated s) {p' : PointerSpeeds} {writes : List Issue}
    (hk : PointerSpeeds.Keeps [] s.speeds p') (hw : ∀ w ∈ writes, p'.Carried w.restore) :
    After e s (s.log p' writes) where
  dated := h.log hk hw
  generation := hk.generation
  entry := fun key g hg => (hk.entry key g hg).imp id And.left
  bound := fun key _ hb => (hk.bound key hb).resolve_right List.not_mem_nil

theorem after_same {e : Ev} {s' : Sys} (h : Dated s) (hk : PointerSpeeds.Keeps [] s.speeds s'.speeds)
    (hi : s'.issued = s.issued) : After e s s' where
  dated := ⟨hk.given h.given, fun w hw => (h.issued w (hi ▸ hw)).mono hk.generation⟩
  generation := hk.generation
  entry := fun key g hg => (hk.entry key g hg).imp id And.left
  bound := fun key _ hb => (hk.bound key hb).resolve_right List.not_mem_nil

theorem after_reapply {e : Ev} (h : Dated s) (hosts : Nat → Option HostRead) (key : String) (route : DeviceRoute)
    (saved : SavedSpeed) : After e s ({ s with hosts := hosts }.reapply key route saved) := by
  obtain ⟨hk, hc⟩ := PointerSpeeds.reapply_keeps h.given key route saved
  have hlog : After e s (s.log (s.speeds.reapply key route saved).2
      ((s.speeds.reapply key route saved).1.toList.map (·.issue))) := by
    refine after_log h hk fun w hw => ?_
    obtain ⟨v, hv, rfl⟩ := List.mem_map.1 hw
    exact hc v (Option.mem_toList.1 hv)
  exact ⟨⟨hlog.dated.given, hlog.dated.issued⟩, hlog.generation, hlog.entry, hlog.bound⟩

theorem after_restored (h : Dated s) {w : Issue} {r : Restore} (hr : w.restore = some r) :
    After (.land w) s { s with speeds := s.speeds.restored r } := by
  rcases PointerSpeeds.restored_cases s.speeds r with ⟨hown, he⟩ | ⟨-, he⟩
  · have hentry : ∀ key g, (s.speeds.restored r).restore key = some g → s.speeds.restore key = some g := by
      intro key g hg
      rw [he] at hg
      by_cases hk : key = r.key
      · simp [hk] at hg
      · simpa [Function.update_of_ne hk] using hg
    have hgen : (s.speeds.restored r).restoreGeneration = s.speeds.restoreGeneration := by rw [he]
    refine ⟨⟨fun key g hg => ?_, fun v hv => ?_⟩, Nat.le_of_eq hgen.symm, fun key g hg => Or.inl (hentry key g hg),
      fun key hl hb => ?_⟩
    · exact hgen ▸ h.given key g (hentry key g hg)
    · exact (h.issued v hv).mono (Nat.le_of_eq hgen.symm)
    · have hk : key ≠ r.key := by
        rintro rfl
        simp [Ev.landsOwn, PointerSpeeds.pendingRestore, hr, hown] at hl
      simpa [he, PointerSpeeds.Bound, PointerSpeeds.isOn, Function.update_of_ne hk] using hb
  · rw [he]
    exact after_same h (.refl _) rfl

/-- **What one event keeps.** -/
theorem after_step {s' : Sys} {e : Ev} (h : Dated s) (hs : step s e = some s') : After e s s' := by
  have hone : ∀ {p' : PointerSpeeds} {w : Issue}, PointerSpeeds.Keeps [] s.speeds p' ∧ p'.Carried w.restore →
      After e s (s.log p' [w]) := fun hkc =>
    after_log h hkc.1 fun v hv => by
      rw [List.mem_singleton.1 hv]
      exact hkc.2
  cases e with
  | publish selected mice =>
    obtain rfl := Option.some.inj hs
    exact after_same h (.still rfl rfl rfl) rfl
  | toggle key press =>
    simp only [step] at hs
    split at hs
    · obtain rfl := Option.some.inj hs
      exact after_same h (.refl _) rfl
    · rename_i on w p' ht
      obtain rfl := Option.some.inj hs
      exact hone (PointerSpeeds.togglePrecision_keeps ht)
  | appWrite route saved =>
    obtain rfl := Option.some.inj hs
    exact hone (PointerSpeeds.appWrite_keeps s.speeds route saved)
  | presetWrite route dpi =>
    obtain rfl := Option.some.inj hs
    exact hone (PointerSpeeds.presetPlace_keeps h.given route)
  | presetPlace route =>
    obtain rfl := Option.some.inj hs
    exact hone (PointerSpeeds.presetPlace_keeps h.given route)
  | shiftRestore key route own =>
    simp only [step] at hs
    split at hs
    · obtain rfl := Option.some.inj hs
      exact after_same h (.refl _) rfl
    · rename_i w p' ht
      obtain rfl := Option.some.inj hs
      obtain ⟨-, rfl, rfl⟩ := PointerSpeeds.shiftRestore_cases ht
      exact hone ⟨PointerSpeeds.keeps_request _ route, PointerSpeeds.carried_pendingRestore h.given key⟩
  | hostRead task key =>
    simp only [step] at hs
    split at hs
    · obtain rfl := Option.some.inj hs
      exact after_same h (.refl _) rfl
    · obtain rfl := Option.some.inj hs
      exact after_same h (.refl _) rfl
  | hostReapply task =>
    simp only [step] at hs
    split at hs
    · cases hs
    · obtain rfl := Option.some.inj hs
      exact after_reapply h _ _ _ _
  | reapply key route saved =>
    obtain rfl := Option.some.inj hs
    exact after_reapply h s.hosts key route saved
  | reload change mice =>
    obtain rfl := Option.some.inj hs
    obtain ⟨hk, hc⟩ := PointerSpeeds.reload_keeps h.given change mice
    refine after_log h hk fun v hv => ?_
    obtain ⟨w, hw, rfl⟩ := List.mem_map.1 hv
    exact hc w hw
  | land w =>
    simp only [step] at hs
    split at hs
    · split at hs
      · obtain rfl := Option.some.inj hs
        exact after_same h (.refl _) rfl
      · rename_i r hr
        obtain rfl := Option.some.inj hs
        exact after_restored h hr
    · cases hs
  | rehash online precision =>
    simp only [step] at hs
    split at hs
    · rename_i hperm
      obtain rfl := Option.some.inj hs
      refine after_same h ⟨Nat.le_refl _, fun _ _ hg => Or.inl hg, fun key hb => Or.inl (hb.imp (fun hb => ?_) id)⟩ rfl
      rw [PointerSpeeds.isOn_iff] at hb ⊢
      exact hperm.2.symm.subset hb
    · cases hs

theorem run_dated {es : List Ev} {s' : Sys} (h : Dated s) (hr : run step s es = some s') : Dated s' :=
  run_inv Dated (fun _ _ _ h hs => (after_step h hs).dated) es s s' h hr

/-- An entry that a run leaves is one of its start, or of a generation given out since. -/
theorem run_entry : ∀ (es : List Ev) {s s' : Sys}, Dated s → run step s es = some s' → ∀ key g,
    s'.speeds.restore key = some g → s.speeds.restore key = some g ∨ s.speeds.restoreGeneration < g
  | [], s, s', _, hr, key, g, hg => by
    cases hr
    exact Or.inl hg
  | e :: es, s, s', h, hr, key, g, hg => by
    obtain ⟨t, ht, hr⟩ := run_cons hr
    have ha := after_step h ht
    have hle := ha.generation
    rcases run_entry es ha.dated hr key g hg with h1 | h1
    · exact ha.entry key g h1
    · exact Or.inr (by omega)

theorem run_bound (key : String) : ∀ (es : List Ev) {s s' : Sys}, Dated s → run step s es = some s' →
    Along step (fun s e => e.landsOwn key s = false) s es → s.speeds.Bound key → s'.speeds.Bound key
  | [], s, s', _, hr, _, hb => by
    cases hr
    exact hb
  | e :: es, s, s', h, hr, hal, hb => by
    obtain ⟨t, ht, hr⟩ := run_cons hr
    have ha := after_step h ht
    exact run_bound key es ha.dated hr (hal.2 t ht) (ha.bound key hal.1 hb)

/-- **A restore is cleared by its own generation only.**  After any run: (1) whatever the run goes on with, a write that
was numbered by then leaves every entry that became owed since; and (2) a mouse whose precision mode is on then is owed
its restore whenever the mode is off, until a write lands that carries the restore the mouse is owed at that time. -/
theorem restores_cleared_by_own {pre : List Ev} {s : Sys} (hpre : run step .init pre = some s) {es : List Ev} {s' : Sys}
    (hes : run step s es = some s') (key : String) :
    (∀ w ∈ s.issued, ∀ r, w.restore = some r → ∀ g, s'.speeds.restore key = some g → s.speeds.restore key ≠ some g →
      (s'.speeds.restored r).restore key = some g) ∧
    (s.speeds.isOn key = true → Along step (fun s e => e.landsOwn key s = false) s es →
      s'.speeds.isOn key = false → (s'.speeds.restore key).isSome = true) := by
  have hd := run_dated dated_init hpre
  constructor
  · intro w hw r hr g hg hnew
    have hlt := (run_entry es hd hes key g hg).resolve_left hnew
    have hle := hd.issued w hw r hr
    rcases PointerSpeeds.restored_cases s'.speeds r with ⟨hown, he⟩ | ⟨-, he⟩
    · have hk : key ≠ r.key := by
        rintro rfl
        have hgen : r.generation = g := Option.some.inj (hown.symm.trans hg)
        omega
      rw [he]
      simpa [Function.update_of_ne hk] using hg
    · rw [he]
      exact hg
  · intro hon hal hoff
    rcases run_bound key es hd hes hal (Or.inl hon) with h | h
    · rw [hoff] at h
      cases h
    · exact h

theorem restore_owed_after_press :
    let m : SpeedMouse := ⟨"m", .direct 1 2, .dpi (some 800)⟩
    ∃ s s', run step .init [.publish none [m], .toggle (some "m") .assigned] = some s ∧
      run step s [.toggle (some "m") .assigned, .publish none []] = some s' ∧
        (s'.speeds.restore "m").isSome = true := by
  refine ⟨_, _, rfl, rfl, ?_⟩
  exact (@restores_cleared_by_own
    [.publish none [⟨"m", .direct 1 2, .dpi (some 800)⟩], .toggle (some "m") .assigned] _ rfl
    [.toggle (some "m") .assigned, .publish none []] _ rfl "m").2 (by decide) (by decide) (by decide)

end Pointer
end OpenLogi
