import OpenLogi.Pointer.Newest
/-!
# Order — the newest write in every run

`Apt` is when an event keeps the newest writes right: it reaches the mouse that is alone on its route, with a value of
its kind, and a reload or a reconnect is told of the mice that are online.  A host-mode write reads the saved speed in
one critical section and takes its number in another; `Fresh` is when the speed it read is still the saved one.
-/
namespace OpenLogi
namespace Pointer

open Hid (DeviceRoute)
open Lib (run along_inv Along)
open PointerSpeeds

/-- A reconnect or host-mode write of `key` at `route` reaches no other mouse and is of its kind (with `exact`, of its
saved value). -/
def Own (exact : Bool) (p : PointerSpeeds) (key : String) (route : DeviceRoute) (saved : SavedSpeed) : Prop :=
  ∀ m ∈ p.online, toString m.route = toString route → m.key = key ∧ Agrees exact m.saved saved

/-- A mouse that a publication brings online: it was online so already, or its newest write is its reconnect's. -/
def Arrives (exact : Bool) (s : Sys) (m' : SpeedMouse) : Prop :=
  (∃ m ∈ s.speeds.online, m'.key = m.key ∧ m'.route = m.route ∧ Agrees exact m.saved m'.saved) ∨
    ∀ w ∈ s.issued, w.ticket.queue = toString m'.route → s.speeds.newest w = true → s.speeds.Required exact m' w

def Apt (exact : Bool) (s : Sys) : Ev → Prop
  | .publish selected mice =>
    (s.speeds.publish selected mice).Alone ∧ ∀ m' ∈ (s.speeds.publish selected mice).online, Arrives exact s m'
  | .appWrite route saved =>
    ∀ m ∈ s.speeds.online, toString m.route = toString route → m.route = route ∧ m.saved.sameKind saved = true
  | .presetWrite route _ | .presetPlace route =>
    ∀ m ∈ s.speeds.online, toString m.route = toString route → m.route = route ∧ m.saved.isDpi = true
  | .shiftRestore key route _ => ∀ m ∈ s.speeds.online, toString m.route = toString route → m.key = key
  | .hostReapply task => ∀ read ∈ s.hosts task, Own exact s.speeds read.key read.route read.saved
  | .reapply key route saved => Own exact s.speeds key route saved
  | .reload _ mice =>
    (∀ mouse ∈ mice, ∃ m ∈ s.speeds.online,
      m.key = mouse.key ∧ m.route = mouse.route ∧ Agrees exact m.saved mouse.saved) ∧
      ∀ m ∈ s.speeds.online, ∃ mouse ∈ mice, mouse.key = m.key
  | .toggle _ _ | .hostRead _ _ | .land _ | .rehash _ _ => True

instance decidableOwn (exact : Bool) (p : PointerSpeeds) (key : String) (route : DeviceRoute) (saved : SavedSpeed) :
    Decidable (Own exact p key route saved) :=
  inferInstanceAs (Decidable (∀ m ∈ p.online, toString m.route = toString route →
    m.key = key ∧ Agrees exact m.saved saved))

instance decidableArrives (exact : Bool) (s : Sys) (m' : SpeedMouse) : Decidable (Arrives exact s m') :=
  inferInstanceAs (Decidable (
    (∃ m ∈ s.speeds.online, m'.key = m.key ∧ m'.route = m.route ∧ Agrees exact m.saved m'.saved) ∨
      ∀ w ∈ s.issued, w.ticket.queue = toString m'.route → s.speeds.newest w = true → s.speeds.Required exact m' w))

instance decidableApt (exact : Bool) (s : Sys) (e : Ev) : Decidable (Apt exact s e) := by
  cases e <;> dsimp only [Apt] <;> infer_instance

structure Sound (exact : Bool) (s : Sys) : Prop where
  alone : s.speeds.Alone
  numbered : Numbered s.speeds s.issued
  covered : Covered exact [] s.speeds s.issued

/-- The landing of a write clears a restore, and asks no more of the newest write than before. -/
theorem required_restored {exact : Bool} {p : PointerSpeeds} {m : SpeedMouse} {w : Issue} (r : Restore)
    (h : p.Required exact m w) : (p.restored r).Required exact m w := by
  unfold PointerSpeeds.restored
  split
  · unfold Required at h ⊢
    split
    · rename_i hon
      rwa [if_pos (show p.isOn m.key = true from hon)] at h
    · rename_i hon
      rw [if_neg (show ¬ p.isOn m.key = true from hon)] at h
      refine ⟨h.1, fun g hg => ?_, h.2.2⟩
      by_cases hk : m.key = r.key
      · simp [hk] at hg
      · exact h.2.1 g (by simpa [Function.update_of_ne hk] using hg)
  · exact h

/-- **One event keeps the newest writes right.** -/
theorem sound_step {exact : Bool} {s s' : Sys} {e : Ev} (h : Sound exact s) (ha : Apt exact s e)
    (hs : step s e = some s') : Sound exact s' := by
  have hreapply : ∀ (hosts : Nat → Option HostRead) (key : String) (route : DeviceRoute) (saved : SavedSpeed),
      Own exact s.speeds key route saved → Sound exact ({ s with hosts := hosts }.reapply key route saved) := by
    intro hosts key route saved hown
    obtain ⟨hc, hn⟩ := covered_reapply h.covered h.numbered key route saved hown
    have halone : (s.speeds.reapply key route saved).2.Alone := by
      rcases s.speeds.reapply_cases key route saved with ⟨-, he⟩ | ⟨-, target, -, -, he⟩ | ⟨-, -, -, he⟩
      · rw [he]; exact h.alone
      · rw [he]; exact h.alone
      · rw [he]; exact h.alone
    have hlog : ((s.speeds.reapply key route saved).1.toList.map (·.issue)).reverse =
        (s.speeds.reapply key route saved).1.toList.map (·.issue) := by
      cases (s.speeds.reapply key route saved).1 <;> rfl
    refine ⟨halone, ?_, ?_⟩
    · show Numbered (s.speeds.reapply key route saved).2
        (((s.speeds.reapply key route saved).1.toList.map (·.issue)).reverse ++ s.issued)
      rw [hlog]
      exact hn
    · show Covered exact [] (s.speeds.reapply key route saved).2
        (((s.speeds.reapply key route saved).1.toList.map (·.issue)).reverse ++ s.issued)
      rw [hlog]
      exact hc
  cases e with
  | publish selected mice =>
    obtain rfl := Option.some.inj hs
    refine ⟨ha.1, ⟨h.numbered.counter, h.numbered.below⟩, fun m' hm' hl w hw hq hnew => ?_⟩
    rcases ha.2 m' hm' with ⟨m, hm, hk, hroute, hagree⟩ | hreq
    · exact (h.covered m hm (by simp) w hw (hroute ▸ hq) hnew).of_same hk hagree rfl rfl
    · exact (hreq w hw hq hnew).of_same rfl (Agrees.refl _ _) rfl rfl
  | toggle key press =>
    simp only [step] at hs
    split at hs
    · obtain rfl := Option.some.inj hs
      exact h
    · rename_i on w p' ht
      obtain rfl := Option.some.inj hs
      obtain ⟨hc, hn⟩ := covered_togglePrecision h.covered h.numbered h.alone ht
      refine ⟨?_, hn, hc⟩
      obtain ⟨m, -, ⟨-, -, rfl⟩ | ⟨-, -, rfl⟩⟩ := togglePrecision_cases ht
      · exact h.alone
      · exact h.alone
  | appWrite route saved =>
    obtain rfl := Option.some.inj hs
    obtain ⟨hc, hn⟩ := covered_appWrite h.covered h.numbered h.alone route saved ha
    exact ⟨alone_appWrite h.alone route saved ha, hn, hc⟩
  | presetWrite route dpi =>
    obtain rfl := Option.some.inj hs
    obtain ⟨hc, hn⟩ := covered_presetPlace h.covered h.numbered h.alone route ha (some (.dpi (.value dpi)))
    exact ⟨h.alone.of_online (online_presetPlace s.speeds route), hn, hc⟩
  | presetPlace route =>
    obtain rfl := Option.some.inj hs
    obtain ⟨hc, hn⟩ := covered_presetPlace h.covered h.numbered h.alone route ha none
    exact ⟨h.alone.of_online (online_presetPlace s.speeds route), hn, hc⟩
  | shiftRestore key route own =>
    simp only [step] at hs
    split at hs
    · obtain rfl := Option.some.inj hs
      exact h
    · rename_i w p' ht
      obtain rfl := Option.some.inj hs
      obtain ⟨hc, hn⟩ := covered_shiftRestore h.covered h.numbered ht ha
      refine ⟨?_, hn, hc⟩
      obtain ⟨-, -, rfl⟩ := shiftRestore_cases ht
      exact h.alone
  | hostRead task key =>
    simp only [step] at hs
    split at hs
    · obtain rfl := Option.some.inj hs
      exact h
    · obtain rfl := Option.some.inj hs
      exact ⟨h.alone, h.numbered, h.covered⟩
  | hostReapply task =>
    simp only [step] at hs
    split at hs
    · cases hs
    · rename_i read hread
      obtain rfl := Option.some.inj hs
      exact hreapply _ _ _ _ (ha read hread)
  | reapply key route saved =>
    obtain rfl := Option.some.inj hs
    exact hreapply s.hosts key route saved ha
  | reload change mice =>
    obtain rfl := Option.some.inj hs
    obtain ⟨hc, hn, hon⟩ := covered_reload h.covered h.numbered h.alone change mice ha.1 ha.2
    exact ⟨h.alone.of_online hon, hn, hc⟩
  | land w =>
    simp only [step] at hs
    split at hs
    · split at hs
      · obtain rfl := Option.some.inj hs
        exact h
      · rename_i r hr
        obtain rfl := Option.some.inj hs
        obtain ⟨ho, hon, -⟩ := s.speeds.restored_same r
        refine ⟨h.alone.of_online hon, ⟨fun queue => ?_, fun v hv => ?_⟩,
          fun m hm hl v hv hq hnew => required_restored r ?_⟩
        · rw [ho]
          exact h.numbered.counter queue
        · rw [ho]
          exact h.numbered.below v hv
        · unfold newest at hnew
          rw [ho] at hnew
          exact h.covered m (hon ▸ hm) hl v hv hq hnew
    · cases hs
  | rehash online precision =>
    simp only [step] at hs
    split at hs
    · rename_i hperm
      obtain rfl := Option.some.inj hs
      refine ⟨fun m hm m' hm' => ?_, ⟨h.numbered.counter, h.numbered.below⟩, fun m hm hl v hv hq hnew => ?_⟩
      · exact h.alone m (hperm.1.subset hm) m' (hperm.1.subset hm')
      · refine (h.covered m (hperm.1.subset hm) hl v hv hq hnew).of_same rfl (Agrees.refl _ _) ?_ rfl
        exact isOn_congr hperm.2.mem_iff
    · cases hs

/-- A reconnect write makes its mouse arrive. -/
theorem arrives_reapply {exact : Bool} {s : Sys} (hn : Numbered s.speeds s.issued) {m : SpeedMouse}
    (hw : (s.speeds.reapply m.key m.route m.saved).1.isSome) :
    Arrives exact (s.reapply m.key m.route m.saved) m := by
  refine .inr fun v hv hq hnew => ?_
  unfold Sys.reapply at hv hnew ⊢
  rcases s.speeds.reapply_cases m.key m.route m.saved with ⟨hon, he⟩ | ⟨hoff, target, -, rfl, he⟩ | ⟨-, -, -, he⟩
  · rw [he] at hv hnew ⊢
    rcases newest_placed hn (placed_request s.speeds m.route) hv hnew with rfl | ⟨-, hne, -⟩
    · exact required_precision hon rfl rfl
    · exact absurd hq hne
  · rw [he] at hv hnew ⊢
    rcases newest_placed hn (placed_request s.speeds m.route) hv hnew with rfl | ⟨-, hne, -⟩
    · exact required_off hoff rfl (fun g hg => pendingRestore_of hg) fun _ => rfl
    · exact absurd hq hne
  · rw [he] at hw
    cases hw

def dpiMouse (key : String) (dpi : Dpi) : SpeedMouse := ⟨key, .direct 1 2, .dpi (some dpi)⟩

end Pointer
end OpenLogi
