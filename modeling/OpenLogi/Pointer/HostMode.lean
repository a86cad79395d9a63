import OpenLogi.Pointer.Order
/-!
# HostMode — a host-mode write and a newer saved speed

`host_mode_write` reads the saved speed in one critical section and takes its write's number in another.  A speed that
the settings app saves and numbers in between is overtaken by the one read before it.
-/
namespace OpenLogi
namespace Pointer

open Lib (Table run Along EveryState everyState_iff_along)
open PointerSpeeds

/-- The events of host-mode writes, and of settings-app and preset writes for mice of their kind. -/
def HostEv (s : Sys) : Ev → Prop
  | .hostRead _ _ | .hostReapply _ | .land _ => True
  | .appWrite route saved =>
    ∀ m ∈ s.speeds.online, toString m.route = toString route → m.route = route ∧ m.saved.sameKind saved = true
  | .presetWrite route _ | .presetPlace route =>
    ∀ m ∈ s.speeds.online, toString m.route = toString route → m.route = route ∧ m.saved.isDpi = true
  | _ => False

instance decidableHostEv (s : Sys) : (e : Ev) → Decidable (HostEv s e)
  | .hostRead _ _ | .hostReapply _ | .land _ => .isTrue trivial
  | .appWrite route saved => inferInstanceAs (Decidable (∀ m ∈ s.speeds.online, toString m.route = toString route →
      m.route = route ∧ m.saved.sameKind saved = true))
  | .presetWrite route _ | .presetPlace route => inferInstanceAs (Decidable (∀ m ∈ s.speeds.online,
      toString m.route = toString route → m.route = route ∧ m.saved.isDpi = true))
  | .publish _ _ | .toggle _ _ | .shiftRestore _ _ _ | .reapply _ _ _ | .reload _ _ | .rehash _ _ => .isFalse id

def hostStep (s : Sys) (e : Ev) : Option Sys := if HostEv s e then step s e else none

/-- The newest write of each online mouse out of precision mode sets the speed that was saved last; a preset action's
write sets the DPI it picked. -/
def CarriesSaved (s : Sys) : Prop :=
  ∀ m ∈ s.speeds.online, s.speeds.isOn m.key = false → ∀ w ∈ s.issued, w.ticket.queue = toString m.route →
    s.speeds.newest w = true → w.load.sets m.saved

instance decidableCarriesSaved (s : Sys) : Decidable (CarriesSaved s) :=
  inferInstanceAs (Decidable (∀ m ∈ s.speeds.online, s.speeds.isOn m.key = false → ∀ w ∈ s.issued,
    w.ticket.queue = toString m.route → s.speeds.newest w = true → w.load.sets m.saved))

/-- A host-mode write that is about to number a saved speed has read the one that is saved now. -/
def Fresh (s : Sys) : Ev → Prop
  | .hostReapply task => ∀ read ∈ s.hosts task, ∀ m ∈ s.speeds.online, m.key = read.key →
    s.speeds.isOn m.key = false → (s.speeds.pendingRestore m.key ≠ none ∨ read.saved.value ≠ none) →
      read.saved.restored = m.saved.restored
  | _ => True

/-- What a task has read of a mouse keeps its route and its kind. -/
def HostsKnown (s : Sys) : Prop :=
  ∀ task, ∀ read ∈ s.hosts task, ∀ m ∈ s.speeds.online,
    (m.key = read.key → m.route = read.route) ∧
      (toString m.route = toString read.route → m.key = read.key ∧ m.saved.sameKind read.saved = true)

structure HostInv (s : Sys) : Prop where
  sound : Sound false s
  known : HostsKnown s

variable {s : Sys}

theorem sound_true_iff (h : Sound false s) : Sound true s ↔ CarriesSaved s := by
  constructor
  · intro ht m hm hoff w hw hq hnew
    have hreq := ht.covered m hm List.not_mem_nil w hw hq hnew
    rw [Required, if_neg (by simp [hoff])] at hreq
    exact hreq.2.2 rfl
  · intro hc
    refine ⟨h.alone, h.numbered, fun m hm hl w hw hq hnew => ?_⟩
    have hreq := h.covered m hm hl w hw hq hnew
    unfold Required at hreq ⊢
    split
    · rename_i hon
      rwa [if_pos hon] at hreq
    · rename_i hoff
      rw [if_neg hoff] at hreq
      exact ⟨hreq.1, hreq.2.1, fun _ => hc m hm (by simpa using hoff) w hw hq hnew⟩

theorem hostsKnown_roster {s' : Sys} (h : HostsKnown s) (hr : Roster s.speeds s'.speeds)
    (hh : ∀ task, ∀ read ∈ s'.hosts task, read ∈ s.hosts task) : HostsKnown s' := by
  intro task read hread m' hm'
  obtain ⟨m, hm, hk, hroute, hkind⟩ := hr m' hm'
  obtain ⟨h1, h2⟩ := h task read (hh task read hread) m hm
  rw [hk, hroute]
  refine ⟨h1, fun hq => ⟨(h2 hq).1, ?_⟩⟩
  have hsame := (h2 hq).2
  simp only [SavedSpeed.sameKind, beq_iff_eq] at hkind hsame ⊢
  rw [← hkind, hsame]

theorem hostsKnown_read (hal : s.speeds.Alone) (h : HostsKnown s) {key : String} {m : SpeedMouse}
    (hm : s.speeds.online.get? key = some m) (task : Nat) :
    HostsKnown { s with hosts := Function.update s.hosts task (some ⟨key, m.route, m.saved⟩) } := by
  obtain ⟨hmem, rfl⟩ := Table.mem_of_get? hm
  intro t read hread x hx
  dsimp only at hread hx ⊢
  by_cases ht : t = task
  · subst ht
    rw [Function.update_self] at hread
    cases hread
    refine ⟨fun hk => by rw [Table.eq_of_key hx hmem hk], fun hq => ?_⟩
    obtain rfl := hal x hx m hmem hq
    exact ⟨rfl, by simp [SavedSpeed.sameKind]⟩
  · rw [Function.update_of_ne ht] at hread
    exact h t read hread x hx

theorem hostsKnown_done (task : Nat) :
    ∀ t, ∀ read ∈ Function.update s.hosts task none t, read ∈ s.hosts t := by
  intro t read hread
  by_cases ht : t = task
  · subst ht
    rw [Function.update_self] at hread
    cases hread
  · rwa [Function.update_of_ne ht] at hread

/-- What an event of `hostStep` needs of the mice it reaches. -/
theorem apt_of_hostEv {exact : Bool} {e : Ev} (he : HostEv s e) (hown : ∀ task, e = .hostReapply task → Apt exact s e) :
    Apt exact s e := by
  cases e with
  | hostReapply task => exact hown task rfl
  | hostRead task key => trivial
  | land w => trivial
  | appWrite route saved => exact he
  | presetWrite route dpi => exact he
  | presetPlace route => exact he
  | _ => exact he.elim

theorem hostInv_step {s' : Sys} {e : Ev} (h : HostInv s) (hs : hostStep s e = some s') : HostInv s' := by
  unfold hostStep at hs
  split at hs
  · rename_i he
    refine ⟨sound_step h.sound (apt_of_hostEv he ?_) hs, ?_⟩
    · rintro task rfl read hread m hm hq
      exact ⟨((h.known task read hread m hm).2 hq).1, ((h.known task read hread m hm).2 hq).2, fun hx => by cases hx⟩
    · cases e with
      | hostRead task key =>
        simp only [step] at hs
        cases hm : s.speeds.online.get? key with
        | none =>
          simp only [hostModeRead, hm, Option.map_none] at hs
          obtain rfl := Option.some.inj hs
          exact h.known
        | some m =>
          simp only [hostModeRead, hm, Option.map_some] at hs
          obtain rfl := Option.some.inj hs
          exact hostsKnown_read h.sound.alone h.known hm task
      | hostReapply task =>
        simp only [step] at hs
        split at hs
        · cases hs
        · rename_i read hread
          obtain rfl := Option.some.inj hs
          refine hostsKnown_roster h.known (roster_of_online ?_) (hostsKnown_done task)
          rcases s.speeds.reapply_cases read.key read.route read.saved with
            ⟨-, he⟩ | ⟨-, target, -, -, he⟩ | ⟨-, -, -, he⟩
          · show (s.speeds.reapply read.key read.route read.saved).2.online = _
            rw [he]; rfl
          · show (s.speeds.reapply read.key read.route read.saved).2.online = _
            rw [he]; rfl
          · show (s.speeds.reapply read.key read.route read.saved).2.online = _
            rw [he]
      | land w =>
        simp only [step] at hs
        split at hs
        · split at hs
          · obtain rfl := Option.some.inj hs
            exact h.known
          · rename_i r _
            obtain rfl := Option.some.inj hs
            exact hostsKnown_roster h.known (roster_of_online (s.speeds.restored_same r).2.1) fun _ _ hr => hr
        · cases hs
      | appWrite route saved =>
        obtain rfl := Option.some.inj hs
        exact hostsKnown_roster h.known (roster_appWrite h.sound.alone route saved he) fun _ _ hr => hr
      | presetWrite route dpi =>
        obtain rfl := Option.some.inj hs
        exact hostsKnown_roster h.known (roster_of_online (online_presetPlace s.speeds route)) fun _ _ hr => hr
      | presetPlace route =>
        obtain rfl := Option.some.inj hs
        exact hostsKnown_roster h.known (roster_of_online (online_presetPlace s.speeds route)) fun _ _ hr => hr
      | _ => exact he.elim
  · cases hs

/-- The second critical section of a host-mode write keeps the newest write right exactly when its reading is fresh. -/
theorem carriesSaved_reapply (h : HostInv s) (hc : CarriesSaved s) {task : Nat} {read : HostRead}
    (hread : s.hosts task = some read) (hosts : Nat → Option HostRead) :
    CarriesSaved ({ s with hosts := hosts }.reapply read.key read.route read.saved) ↔ Fresh s (.hostReapply task) := by
  have hspeeds : ({ s with hosts := hosts }.reapply read.key read.route read.saved).speeds =
      (s.speeds.reapply read.key read.route read.saved).2 := rfl
  have hissued : ({ s with hosts := hosts }.reapply read.key read.route read.saved).issued =
      ((s.speeds.reapply read.key read.route read.saved).1.toList.map (·.issue)).reverse ++ s.issued := rfl
  have hfresh : Fresh s (.hostReapply task) ↔ ∀ m ∈ s.speeds.online, m.key = read.key →
      s.speeds.isOn m.key = false → (s.speeds.pendingRestore m.key ≠ none ∨ read.saved.value ≠ none) →
        read.saved.restored = m.saved.restored :=
    ⟨fun hf => hf read hread, fun hf r hr => by
      obtain rfl : read = r := Option.some.inj (hread.symm.trans hr)
      exact hf⟩
  rw [hfresh]
  unfold CarriesSaved
  rw [hspeeds, hissued]
  rcases s.speeds.reapply_cases read.key read.route read.saved with ⟨hon, he⟩ | ⟨hoff, target, hcond, rfl, he⟩ |
    ⟨-, hpend, hval, he⟩
  · rw [he]
    refine ⟨fun _ m hm hk hoff _ => ?_, fun _ m hm hoff w hw hq hnew => ?_⟩
    · rw [hk, hon] at hoff
      cases hoff
    · rcases newest_placed h.sound.numbered (placed_request s.speeds read.route) hw hnew with rfl | ⟨hw, -, hnew⟩
      · rw [((h.known task read hread m hm).2 hq.symm).1] at hoff
        exact absurd (hon.symm.trans hoff) (by simp)
      · exact hc m hm hoff w hw hq hnew
  · rw [he]
    refine ⟨fun hall m hm hk hoffm _ => ?_, fun hf m hm hoffm w hw hq hnew => ?_⟩
    · have hroute := (h.known task read hread m hm).1 hk
      have hp := placed_request s.speeds read.route
      exact hall m hm hoffm _ List.mem_cons_self (by rw [hroute]; rfl) (newest_self h.sound.numbered hp)
    · rcases newest_placed h.sound.numbered (placed_request s.speeds read.route) hw hnew with rfl | ⟨hw, -, hnew⟩
      · have hk := ((h.known task read hread m hm).2 hq.symm).1
        exact hf m hm hk hoffm (hk ▸ hcond)
      · exact hc m hm hoffm w hw hq hnew
  · rw [he]
    refine ⟨fun _ m hm hk _ hcond => ?_, fun _ => hc⟩
    rw [hk, hpend, hval] at hcond
    simp at hcond

theorem sound_hostStep_iff {s' : Sys} {e : Ev} (h : HostInv s) (hc : CarriesSaved s) (hs : hostStep s e = some s') :
    CarriesSaved s' ↔ Fresh s e := by
  have hs2 := hs
  unfold hostStep at hs
  split at hs
  · rename_i he
    by_cases hre : ∃ task, e = .hostReapply task
    · obtain ⟨task, rfl⟩ := hre
      simp only [step] at hs
      split at hs
      · cases hs
      · rename_i read hread
        obtain rfl := Option.some.inj hs
        exact carriesSaved_reapply h hc hread _
    · have hapt : Apt true s e := apt_of_hostEv he fun task ht => absurd ⟨task, ht⟩ hre
      have hsound := sound_step ((sound_true_iff h.sound).2 hc) hapt hs
      refine ⟨fun _ => ?_, fun _ => (sound_true_iff (hostInv_step h hs2).sound).1 hsound⟩
      cases e with
      | hostReapply task => exact absurd ⟨task, rfl⟩ hre
      | _ => trivial
  · cases hs

/-- **A host-mode write overtakes a newer saved speed exactly when it has read the older one**: among host-mode writes,
settings-app writes and preset writes in any order, the newest write of every mouse sets the speed saved last in every
state reached exactly when each host-mode write, as it takes its number, has read the speed that is saved then. -/
theorem newest_saved_iff_fresh {s : Sys} (h : HostInv s) (hc : CarriesSaved s) (es : List Ev) :
    EveryState hostStep CarriesSaved s es ↔ Along hostStep Fresh s es := by
  have hiff := everyState_iff_along (fun s => HostInv s ∧ CarriesSaved s) Fresh
    (fun s e s' hP hs => ⟨fun hP' => (sound_hostStep_iff hP.1 hP.2 hs).1 hP'.2,
      fun hf => ⟨hostInv_step hP.1 hs, (sound_hostStep_iff hP.1 hP.2 hs).2 hf⟩⟩)
    (fun s e hs => by
      cases e with
      | hostReapply task =>
        intro read hread
        have hread' : s.hosts task = some read := hread
        rw [hostStep, if_pos (show HostEv s (.hostReapply task) from trivial)] at hs
        simp [step, hread'] at hs
      | _ => trivial) es s ⟨h, hc⟩
  rw [← hiff]
  exact ⟨fun hall pre t hp hr => ⟨Lib.run_inv HostInv (fun _ _ _ => hostInv_step) pre s t h hr, hall pre t hp hr⟩,
    fun hall pre t hp hr => (hall pre t hp hr).2⟩

/-- The state after the first publication. -/
def published (selected : Option String) (mice : List SpeedMouse) : Sys :=
  { Sys.init with speeds := PointerSpeeds.default.publish selected mice }

theorem hostInv_published {selected : Option String} {mice : List SpeedMouse}
    (hal : (PointerSpeeds.default.publish selected mice).Alone) :
    HostInv (published selected mice) ∧ CarriesSaved (published selected mice) := by
  refine ⟨⟨⟨hal, ⟨numbered_default.counter, fun w hw => absurd hw List.not_mem_nil⟩,
    fun m _ _ w hw => absurd hw List.not_mem_nil⟩, fun task read hread => by cases hread⟩,
    fun m _ _ w hw => absurd hw List.not_mem_nil⟩

theorem fresh_host_write :
    EveryState hostStep CarriesSaved (published none [dpiMouse "m" 800])
      [.appWrite (.direct 1 2) (.dpi (some 1600)), .hostRead 0 "m", .hostReapply 0] :=
  (newest_saved_iff_fresh (hostInv_published (by decide)).1 (hostInv_published (by decide)).2 _).2
    ⟨trivial, fun _ h1 => ⟨trivial, fun t h2 => ⟨by
      obtain rfl := Option.some.inj h1
      obtain rfl := Option.some.inj h2
      intro read hread m hm _ _ _
      cases hread
      rw [List.mem_singleton.1 hm], fun _ _ => trivial⟩⟩⟩

/-- The settings app saves 1600 between the two critical sections, and the host-mode write numbers 800 after it. -/
theorem older_speed_overtakes :
    ¬ ∀ (es : List Ev) (s : Sys), run hostStep (published none [dpiMouse "m" 800]) es = some s → CarriesSaved s := by
  intro h
  have hfail := h [.hostRead 0 "m", .appWrite (.direct 1 2) (.dpi (some 1600)), .hostReapply 0] _ rfl
  revert hfail
  decide

end Pointer
end OpenLogi
