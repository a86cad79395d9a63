import OpenLogi.Cookies.Covered
import OpenLogi.Lib.Run
/-!
# Runs — no byte left behind is forgotten

The cookie plans over a run: inventories, devices that come online, config changes, and writes that settle in any
order. A byte that a removed link left on a device is cleared by a write planned no earlier than the removal, or held
back, or in flight, or named by a linked keyboard, as long as no keyboard that named it is seen with another byte.
-/
namespace OpenLogi
namespace Cookies

open Hid Lib
open OpenLogi.Config (Config DeviceConfig)

variable {V : Type}

/-- A write under way. -/
structure Writing where
  id : Nat
  write : FollowerCookieWrite

/-- What happened to the bytes on the devices. -/
inductive Entry where
  | removed (follower : String) (lead : LeadCookie)
  | planned (id : Nat)
  | cleared (id : Nat) (follower : String) (lead : LeadCookie)
  /-- A linked keyboard that this byte named is seen with another one. -/
  | replaced (follower : String) (lead : LeadCookie)
  deriving DecidableEq

/-- The part of the orchestrator the cookies live in, its writes in flight, and the log, newest first. -/
structure Sys (V : Type) where
  config : Config V
  devices : List LinkDevice
  state : FollowerCookieState
  writing : List Writing
  started : Nat
  log : List Entry

inductive Event (V : Type) where
  | inventory (devices : List LinkDevice)
  /-- A device of the inventory has its volatile settings applied again. -/
  | reapply (target : Nat)
  | reload (config : Config V)
  /-- A write in flight ends, with these clears confirmed; one that fails or never runs confirms none. -/
  | settle (index : Nat) (confirmed : List LeadCookie)

namespace Sys

def start (config : Config V) : Sys V := ⟨config, [], .default, [], 0, []⟩

/-- The byte that names a keyboard, by what was last seen of it. -/
def lead (s : Sys V) (keyboard : String) : Option LeadCookie := s.state.lead s.devices keyboard

/-- The bytes of the keyboards linked to a device. -/
def linked (s : Sys V) (follower : String) : List LeadCookie :=
  s.state.linkedLeads (hostSwitchPairs s.config) s.devices follower

def spawn (s : Sys V) (write : FollowerCookieWrite) : Sys V :=
  { s with
    writing := s.writing ++ [⟨s.started, write⟩]
    started := s.started + 1
    log := .planned s.started :: s.log }

def writeFollowerCookies (s : Sys V) (writes : List FollowerCookieWrite) : Sys V := writes.foldl spawn s

/-- The linked keyboards that an inventory shows with another byte. -/
def replacedBy (s : Sys V) (devices : List LinkDevice) (state : FollowerCookieState) : List Entry :=
  (hostSwitchPairs s.config).filterMap fun pair =>
    match s.lead pair.1, state.lead devices pair.1 with
    | some before, some after => if before = after then none else some (.replaced pair.2 before)
    | _, _ => none

/-- The bytes of the links that `config` removes. -/
def removedBy (s : Sys V) (config : Config V) : List Entry :=
  ((hostSwitchPairs s.config).filter fun pair => !(hostSwitchPairs config).contains pair).filterMap fun pair =>
    (s.lead pair.1).map (Entry.removed pair.2)

/-- The part of `refresh_inventory` before any plan. -/
def inventory (s : Sys V) (devices : List LinkDevice) : Sys V :=
  let state := s.state.rememberLeads devices
  { s with devices, state, log := s.replacedBy devices state ++ s.log }

/-- The cookies of `reapply_volatile_settings`. -/
def reapply (s : Sys V) (device : LinkDevice) : Sys V :=
  if !deviceEnabled s.config device.configKey || device.route.isNone then s
  else
    let (writes, state) := reconnectFollowerCookies s.config s.devices device s.state
    { s with state }.writeFollowerCookies writes

/-- The cookies of `replace_config_from`. -/
def reload (s : Sys V) (config : Config V) : Sys V :=
  let (writes, state) := changedFollowerCookies s.config config s.devices s.state
  { s with config, state, log := s.removedBy config ++ s.log }.writeFollowerCookies writes

/-- The end of a write: the clears that were not confirmed wait again. -/
def settle (s : Sys V) (index : Nat) (w : Writing) (confirmed : List LeadCookie) : Sys V :=
  { s with
    state := s.state.requeue w.write.key (w.write.release.filter (· ∉ confirmed))
    writing := s.writing.eraseIdx index
    log := (w.write.release.filter (· ∈ confirmed)).map (Entry.cleared w.id w.write.key) ++ s.log }

end Sys

def step (s : Sys V) : Event V → Option (Sys V)
  | .inventory devices => some (s.inventory devices)
  | .reapply target => (s.devices[target]?).map s.reapply
  | .reload config => some (s.reload config)
  | .settle index confirmed => (s.writing[index]?).map fun w => s.settle index w confirmed

/-! ### What is claimed of a run -/

/-- A byte left behind, since the removal that left it: cleared by a write planned since, held back, in flight, or named
by a linked keyboard. -/
def Kept (s : Sys V) (since : List Entry) (F : String) (b : LeadCookie) : Prop :=
  (∃ id, .planned id ∈ since ∧ .cleared id F b ∈ since) ∨ b ∈ s.state.held F ∨
    (∃ w ∈ s.writing, .planned w.id ∈ since ∧ w.write.key = F ∧ b ∈ w.write.release) ∨ b ∈ s.linked F

/-- No byte that a removed link left behind is forgotten, unless a linked keyboard that it named has since been seen
with another byte. -/
def NoneForgotten (s : Sys V) : Prop :=
  ∀ since before F b, s.log = since ++ .removed F b :: before → Kept s since F b ∨ .replaced F b ∈ since

/-- The writes of the plan a step made. -/
def plannedBy (s s' : Sys V) : List FollowerCookieWrite :=
  (s'.writing.filter fun w => s.started ≤ w.id).map (·.write)

/-- The plan that takes `s` to `s'` writes each device once, clears no byte of a keyboard linked to it, and clears no
byte that it links. -/
def CleanPlan (s s' : Sys V) : Prop :=
  ∀ w ∈ plannedBy s s', (∀ w' ∈ plannedBy s s', w'.key = w.key → w' = w) ∧
    (∀ keyboard, (keyboard, w.key) ∈ hostSwitchPairs s'.config → ∀ b ∈ s'.lead keyboard, b ∉ w.release) ∧
    ∀ b ∈ w.release, b ∉ w.link

/-! ### The bytes seen -/

namespace FollowerCookieState

theorem rememberLeads_cons (device : LinkDevice) (devices : List LinkDevice) (state : FollowerCookieState) :
    ∃ state' : FollowerCookieState, state.rememberLeads (device :: devices) = state'.rememberLeads devices ∧
      ∀ keyboard, (state'.known keyboard).isSome ↔ (state.known keyboard).isSome ∨
        device.configKey = keyboard ∧ (LeadCookie.forUnitId device.unitId).isSome := by
  rw [rememberLeads, List.foldl_cons]
  refine ⟨_, rfl, fun keyboard => ?_⟩
  cases LeadCookie.forUnitId device.unitId with
  | none => simp
  | some lead =>
    by_cases h : keyboard = device.configKey
    · subst h
      simp
    · simp [h, Ne.symm h]

/-- A byte stays known, and every byte an inventory shows is. -/
theorem known_rememberLeads : ∀ (devices : List LinkDevice) (state : FollowerCookieState) (keyboard : String),
    (state.known keyboard).isSome ∨ (leadCookie devices keyboard).isSome →
      ((state.rememberLeads devices).known keyboard).isSome
  | [], state, keyboard, h => h.resolve_right (by simp [leadCookie])
  | device :: devices, state, keyboard, h => by
    obtain ⟨state', heq, hknown⟩ := rememberLeads_cons device devices state
    rw [heq]
    refine known_rememberLeads devices state' keyboard ?_
    rw [hknown]
    obtain h | h := h
    · exact .inl (.inl h)
    · rw [leadCookie, List.find?_cons] at h
      split at h
      · rename_i hkey
        exact .inl (.inr ⟨of_decide_eq_true hkey, h⟩)
      · exact .inr h

end FollowerCookieState

/-! ### The writes a step starts -/

namespace Sys

variable (s : Sys V)

/-- What starting the writes of a plan does: the rest of the system stands, and each write is in flight and logged. -/
structure Spawned (writes : List FollowerCookieWrite) (s' : Sys V) (planned : List Entry) : Prop where
  config : s'.config = s.config
  devices : s'.devices = s.devices
  state : s'.state = s.state
  started : s.started ≤ s'.started
  log : s'.log = planned ++ s.log
  only : ∀ entry ∈ planned, ∃ id, entry = .planned id
  kept : ∀ w ∈ s.writing, w ∈ s'.writing
  begun : ∀ write ∈ writes, ∃ w ∈ s'.writing, w.write = write ∧ .planned w.id ∈ planned
  new : ∀ w ∈ s'.writing, w ∈ s.writing ∨ (s.started ≤ w.id ∧ w.id < s'.started) ∧ w.write ∈ writes

theorem spawned : ∀ (writes : List FollowerCookieWrite) (s : Sys V),
    ∃ planned, s.Spawned writes (s.writeFollowerCookies writes) planned
  | [], s => ⟨[], rfl, rfl, rfl, le_rfl, rfl, by simp, fun _ hw => hw, by simp, fun _ hw => .inl hw⟩
  | write :: writes, s => by
    obtain ⟨planned, h⟩ := spawned writes (s.spawn write)
    rw [show s.writeFollowerCookies (write :: writes) = (s.spawn write).writeFollowerCookies writes from rfl]
    have hstarted : s.started + 1 ≤ ((s.spawn write).writeFollowerCookies writes).started := h.started
    refine ⟨planned ++ [.planned s.started], h.config, h.devices, h.state, by omega, ?_, ?_, ?_, ?_, ?_⟩
    · rw [h.log, List.append_assoc]
      rfl
    · intro entry hentry
      obtain hentry | hentry := List.mem_append.1 hentry
      · exact h.only entry hentry
      · exact ⟨s.started, List.mem_singleton.1 hentry⟩
    · exact fun w hw => h.kept w (List.mem_append_left _ hw)
    · intro write' hwrite'
      obtain rfl | hwrite' := List.mem_cons.1 hwrite'
      · exact ⟨⟨s.started, write'⟩, h.kept _ (List.mem_append_right _ (List.mem_singleton.2 rfl)), rfl, by simp⟩
      · obtain ⟨w, hw, heq, hplanned⟩ := h.begun write' hwrite'
        exact ⟨w, hw, heq, List.mem_append_left _ hplanned⟩
    · intro w hw
      obtain hw | ⟨hid, hwrite⟩ := h.new w hw
      · obtain hw | hw := List.mem_append.1 hw
        · exact .inl hw
        · rw [List.mem_singleton.1 hw]
          exact .inr ⟨⟨le_rfl, hstarted⟩, by simp⟩
      · have hstart : (s.spawn write).started = s.started + 1 := rfl
        exact .inr ⟨⟨by omega, hid.2⟩, List.mem_cons_of_mem _ hwrite⟩

end Sys

/-! ### What every run keeps -/

/-- The ids in flight have been given out, every byte an inventory shows is known, and no byte left behind is
forgotten. -/
structure Inv (s : Sys V) : Prop where
  fresh : ∀ w ∈ s.writing, w.id < s.started
  known : ∀ keyboard, (leadCookie s.devices keyboard).isSome → (s.state.known keyboard).isSome
  none : NoneForgotten s

theorem inv_start (config : Config V) : Inv (Sys.start config) :=
  ⟨by simp [Sys.start], by simp [Sys.start, leadCookie], fun since before F b h => by simp [Sys.start] at h⟩

variable {new since planned : List Entry} {s s' : Sys V} {b : LeadCookie} {writes : List FollowerCookieWrite}
  {F : String}

/-- A removal in a log that grew stands in the old part or in the new one. -/
theorem removal_cases {old before : List Entry} {r : Entry} (h : new ++ old = since ++ r :: before) :
    (∃ since', since = new ++ since' ∧ old = since' ++ r :: before) ∨ ∃ rest, new = since ++ r :: rest := by
  obtain ⟨mid, hsince, hold⟩ | ⟨mid, hnew, hrest⟩ := List.append_eq_append_iff.1 h
  · exact .inl ⟨mid, hsince, hold⟩
  · cases mid with
    | nil => exact .inl ⟨[], by simpa using hnew.symm, by simpa using hrest.symm⟩
    | cons x mid =>
      rw [List.cons_append, List.cons.injEq] at hrest
      exact .inr ⟨mid, by rw [hnew, hrest.1]⟩

/-- The lead of a keyboard is kept by an inventory, or the keyboard is seen with another byte. -/
theorem lead_inventory (hi : Inv s) (devices : List LinkDevice) {keyboard : String} (h : s.lead keyboard = some b) :
    ∃ b', (s.inventory devices).lead keyboard = some b' := by
  have hknown : (s.state.known keyboard).isSome := by
    cases hl : leadCookie s.devices keyboard with
    | some lead => exact hi.known keyboard (by simp [hl])
    | none => simpa [Sys.lead, FollowerCookieState.lead, hl] using congrArg Option.isSome h
  have hafter := FollowerCookieState.known_rememberLeads devices s.state keyboard (.inl hknown)
  obtain ⟨b', hb'⟩ := Option.isSome_iff_exists.1 hafter
  cases hl : leadCookie devices keyboard with
  | some lead => exact ⟨lead, by simp [Sys.lead, Sys.inventory, FollowerCookieState.lead, hl]⟩
  | none => exact ⟨b', by simp [Sys.lead, Sys.inventory, FollowerCookieState.lead, hl, hb']⟩

theorem inv_inventory (hi : Inv s) (devices : List LinkDevice) : Inv (s.inventory devices) := by
  refine ⟨hi.fresh, fun keyboard h => ?_, fun since before F b hlog => ?_⟩
  · exact FollowerCookieState.known_rememberLeads devices s.state keyboard (.inr h)
  · obtain ⟨since', rfl, hold⟩ | ⟨rest, hnew⟩ := removal_cases hlog
    · obtain (⟨id, hplanned, hcleared⟩ | hheld | ⟨w, hw, hplanned, hrest⟩ | hlinked) | hrep :=
        hi.none since' before F b hold
      · exact .inl (.inl ⟨id, List.mem_append_right _ hplanned, List.mem_append_right _ hcleared⟩)
      · exact .inl (.inr (.inl (by rwa [Sys.inventory, FollowerCookieState.rememberLeads_held])))
      · exact .inl (.inr (.inr (.inl ⟨w, hw, List.mem_append_right _ hplanned, hrest⟩)))
      · obtain ⟨keyboard, hpair, hlead⟩ := FollowerCookieState.mem_linkedLeads.1 hlinked
        obtain ⟨b', hb'⟩ := lead_inventory hi devices hlead
        by_cases heq : b = b'
        · exact .inl (.inr (.inr (.inr
            (FollowerCookieState.mem_linkedLeads.2 ⟨keyboard, hpair, heq ▸ hb'⟩))))
        · refine .inr (List.mem_append_left _ (List.mem_filterMap.2 ⟨(keyboard, F), hpair, ?_⟩))
          have hb'' : (s.state.rememberLeads devices).lead devices keyboard = some b' := hb'
          simp only [show s.lead keyboard = some b from hlead, hb'', if_neg heq]
      · exact .inr (List.mem_append_right _ hrep)
    · have hmem : Entry.removed F b ∈ s.replacedBy devices (s.state.rememberLeads devices) :=
        hnew ▸ List.mem_append_right _ List.mem_cons_self
      obtain ⟨pair, -, hpair⟩ := List.mem_filterMap.1 hmem
      split at hpair
      · split at hpair <;> cases hpair
      · cases hpair

/-- What a plan accounts for is held back, in flight, or named by a linked keyboard. -/
theorem kept_of_accounts {t : Sys V} (h : s.Spawned writes t planned) (hsub : ∀ entry ∈ planned, entry ∈ since)
    (hacc : Accounts s.linked (writes, s.state) F b) : Kept t since F b := by
  have hlinked : t.linked = s.linked := by
    funext F
    rw [Sys.linked, Sys.linked, h.config, h.devices, h.state]
  obtain hheld | ⟨write, hwrite, hkey, hrel⟩ | hl := hacc
  · exact .inr (.inl (h.state ▸ hheld))
  · obtain ⟨w, hw, heq, hplanned⟩ := h.begun write hwrite
    exact .inr (.inr (.inl ⟨w, hw, hsub _ hplanned, by rw [heq, hkey], by rwa [heq]⟩))
  · exact .inr (.inr (.inr (hlinked ▸ hl)))

/-- What stays kept over a plan: what was held back or linked is accounted for. -/
theorem kept_step {t : Sys V} (h : s'.Spawned writes t planned) (hwriting : s'.writing = s.writing)
    (hacc : b ∈ s.state.held F ∨ b ∈ s.linked F → Accounts s'.linked (writes, s'.state) F b)
    (hsub : ∀ entry ∈ planned, entry ∈ new) (hk : Kept s since F b) : Kept t (new ++ since) F b := by
  obtain ⟨id, hplanned, hcleared⟩ | hheld | ⟨w, hw, hplanned, hrest⟩ | hlinked := hk
  · exact .inl ⟨id, List.mem_append_right _ hplanned, List.mem_append_right _ hcleared⟩
  · exact kept_of_accounts h (fun e he => List.mem_append_left _ (hsub e he)) (hacc (.inl hheld))
  · exact .inr (.inr (.inl ⟨w, h.kept w (hwriting ▸ hw), List.mem_append_right _ hplanned, hrest⟩))
  · exact kept_of_accounts h (fun e he => List.mem_append_left _ (hsub e he)) (hacc (.inr hlinked))

theorem not_removed_planned (h : ∀ entry ∈ new, ∃ id, entry = .planned id) : Entry.removed F b ∉ new := by
  intro hmem
  obtain ⟨id, hid⟩ := h _ hmem
  cases hid

theorem inv_reapply (hi : Inv s) (device : LinkDevice) : Inv (s.reapply device) := by
  unfold Sys.reapply
  split
  · exact hi
  · obtain ⟨-, hknown, hheld⟩ := reconnectFollowerCookies_spec s.config s.devices device s.state
    set out := reconnectFollowerCookies s.config s.devices device s.state with hout
    set s' : Sys V := { s with state := out.2 } with hs'
    obtain ⟨planned, hsp⟩ := Sys.spawned out.1 s'
    have hlinked : s'.linked = s.linked := by
      funext F
      exact FollowerCookieState.linkedLeads_congr hknown _ _ F
    refine ⟨fun w hw => ?_, fun keyboard h => ?_, fun since before F b hlog => ?_⟩
    · obtain hw | ⟨hid, -⟩ := hsp.new w hw
      · exact lt_of_lt_of_le (hi.fresh w hw) hsp.started
      · exact hid.2
    · rw [hsp.devices] at h
      rw [hsp.state, hs', hknown]
      exact hi.known keyboard h
    · rw [hsp.log] at hlog
      obtain ⟨since', rfl, hold⟩ | ⟨rest, hnew⟩ := removal_cases hlog
      · refine (hi.none since' before F b hold).imp (fun hk => ?_) (List.mem_append_right _)
        refine kept_step (s := s) hsp rfl ?_ (fun _ he => he) hk
        rintro (hb | hl)
        · rw [hlinked]
          exact hheld F b hb
        · exact .inr (.inr (hlinked ▸ hl))
      · exact absurd (hnew ▸ List.mem_append_right _ List.mem_cons_self) (not_removed_planned hsp.only)

theorem inv_reload (hi : Inv s) (config : Config V) : Inv (s.reload config) := by
  unfold Sys.reload
  obtain ⟨-, hknown, hheld, hlinks⟩ := changedFollowerCookies_spec s.config config s.devices s.state
  set out := changedFollowerCookies s.config config s.devices s.state with hout
  set s' : Sys V := { s with config := config, state := out.2, log := s.removedBy config ++ s.log } with hs'
  obtain ⟨planned, hsp⟩ := Sys.spawned out.1 s'
  have hlinked : s'.linked = s.state.linkedLeads (hostSwitchPairs config) s.devices := by
    funext F
    exact FollowerCookieState.linkedLeads_congr hknown _ _ F
  have hacc : ∀ F b, b ∈ s.state.held F ∨ b ∈ s.linked F → Accounts s'.linked (out.1, s'.state) F b := by
    rintro F b (hb | hl)
    · rw [hlinked]
      exact hheld F b hb
    · obtain ⟨keyboard, hpair, hlead⟩ := FollowerCookieState.mem_linkedLeads.1 hl
      rw [hlinked]
      exact hlinks keyboard F b hpair hlead
  refine ⟨fun w hw => ?_, fun keyboard h => ?_, fun since before F b hlog => ?_⟩
  · obtain hw | ⟨hid, -⟩ := hsp.new w hw
    · exact lt_of_lt_of_le (hi.fresh w hw) hsp.started
    · exact hid.2
  · rw [hsp.devices] at h
    rw [hsp.state, hs', hknown]
    exact hi.known keyboard h
  · rw [hsp.log, hs', ← List.append_assoc] at hlog
    obtain ⟨since', rfl, hold⟩ | ⟨rest, hnew⟩ := removal_cases hlog
    · refine (hi.none since' before F b hold).imp (fun hk => ?_) (List.mem_append_right _)
      exact kept_step (s := s) hsp rfl (hacc F b) (fun _ he => List.mem_append_left _ he) hk
    · -- the removal is of this reload: its log entry is older than those of its plan
      obtain ⟨mid, hsince, hrem⟩ | ⟨rest', hplanned⟩ := removal_cases hnew
      · have hmem : Entry.removed F b ∈ s.removedBy config := by
          rw [hrem]
          exact List.mem_append_right _ List.mem_cons_self
        obtain ⟨⟨keyboard, follower⟩, hpair, hentry⟩ := List.mem_filterMap.1 hmem
        obtain ⟨lead, hlead, heq⟩ := Option.map_eq_some_iff.1 hentry
        cases heq
        refine .inl (kept_of_accounts hsp (fun e he => hsince ▸ List.mem_append_left _ he) ?_)
        exact hacc follower b (.inr (FollowerCookieState.mem_linkedLeads.2
          ⟨keyboard, (List.mem_filter.1 hpair).1, hlead⟩))
      · exact absurd (hplanned ▸ List.mem_append_right _ List.mem_cons_self) (not_removed_planned hsp.only)

theorem inv_settle (hi : Inv s) {index : Nat} {w : Writing} (hw : s.writing[index]? = some w)
    (confirmed : List LeadCookie) : Inv (s.settle index w confirmed) := by
  have hlinked : (s.settle index w confirmed).linked = s.linked := by
    funext F
    exact FollowerCookieState.linkedLeads_congr (FollowerCookieState.requeue_known _ _ _) _ _ F
  refine ⟨fun w' hw' => hi.fresh w' (List.mem_of_mem_eraseIdx hw'), fun keyboard h => ?_,
    fun since before F b hlog => ?_⟩
  · have hknown : (s.settle index w confirmed).state.known = s.state.known := FollowerCookieState.requeue_known _ _ _
    rw [hknown]
    exact hi.known keyboard h
  · obtain ⟨since', rfl, hold⟩ | ⟨rest, hnew⟩ := removal_cases hlog
    · refine (hi.none since' before F b hold).imp (fun hk => ?_) (List.mem_append_right _)
      obtain ⟨id, hplanned, hcleared⟩ | hheld | ⟨w', hw', hplanned, hkey, hrel⟩ | hl := hk
      · exact .inl ⟨id, List.mem_append_right _ hplanned, List.mem_append_right _ hcleared⟩
      · exact .inr (.inl ((FollowerCookieState.mem_held_requeue _).2 (.inl hheld)))
      · by_cases hmem : w' ∈ s.writing.eraseIdx index
        · exact .inr (.inr (.inl ⟨w', hmem, List.mem_append_right _ hplanned, hkey, hrel⟩))
        · -- the write that settles: each clear is confirmed or waits again
          have heq : w' = w := by
            obtain ⟨i, hi', hget⟩ := List.getElem_of_mem hw'
            by_cases h : i = index
            · subst h
              rw [List.getElem?_eq_getElem hi'] at hw
              exact hget.symm.trans (Option.some.inj hw)
            · exact absurd (List.mem_eraseIdx_iff_getElem.2 ⟨i, hi', h, hget⟩) hmem
          subst heq
          by_cases hc : b ∈ confirmed
          · refine .inl ⟨w'.id, List.mem_append_right _ hplanned, List.mem_append_left _ ?_⟩
            exact List.mem_map.2 ⟨b, List.mem_filter.2 ⟨hrel, decide_eq_true hc⟩, by rw [hkey]⟩
          · exact .inr (.inl ((FollowerCookieState.mem_held_requeue _).2
              (.inr ⟨hkey.symm, List.mem_filter.2 ⟨hrel, decide_eq_true hc⟩⟩)))
      · exact .inr (.inr (.inr (hlinked ▸ hl)))
    · have hmem : Entry.removed F b ∈ (w.write.release.filter (· ∈ confirmed)).map (Entry.cleared w.id w.write.key) :=
        hnew ▸ List.mem_append_right _ List.mem_cons_self
      obtain ⟨_, -, heq⟩ := List.mem_map.1 hmem
      cases heq

theorem inv_step {e : Event V} (hi : Inv s) (h : step s e = some s') : Inv s' := by
  cases e with
  | inventory devices =>
    cases h
    exact inv_inventory hi devices
  | reapply target =>
    obtain ⟨device, -, rfl⟩ := Option.map_eq_some_iff.1 h
    exact inv_reapply hi device
  | reload config =>
    cases h
    exact inv_reload hi config
  | settle index confirmed =>
    obtain ⟨w, hw, rfl⟩ := Option.map_eq_some_iff.1 h
    exact inv_settle hi hw confirmed

/-! ### The plans -/

/-- A plan's promise, told of the writes it started. -/
theorem cleanPlan_of_spawned {t : Sys V} (hi : Inv s) (hwriting : s'.writing = s.writing)
    (h : s'.Spawned writes t planned) (hok : PlanOk s'.linked writes) : CleanPlan s t := by
  have hnew : ∀ w ∈ plannedBy s t, w ∈ writes := by
    intro w hw
    obtain ⟨x, hx, rfl⟩ := List.mem_map.1 hw
    obtain ⟨hx, hid⟩ := List.mem_filter.1 hx
    obtain hold | ⟨-, hwrite⟩ := h.new x hx
    · have hlt := hi.fresh x (hwriting ▸ hold)
      exact absurd (of_decide_eq_true hid) (by omega)
    · exact hwrite
  have hlinked : s'.linked = t.linked := by
    funext F
    rw [Sys.linked, Sys.linked, h.config, h.devices, h.state]
  intro w hw
  refine ⟨fun w' hw' hkey => hok.once w' (hnew w' hw') w (hnew w hw) hkey, ?_, ?_⟩
  · intro keyboard hpair b hlead hrel
    refine hok.clears w (hnew w hw) b hrel ?_
    rw [hlinked]
    exact FollowerCookieState.mem_linkedLeads.2 ⟨keyboard, hpair, hlead⟩
  · exact fun b hrel hlink => hok.clears w (hnew w hw) b hrel (hok.links w (hnew w hw) b hlink)

/-- A step that starts no write. -/
theorem cleanPlan_of_no_write {t : Sys V} (hi : Inv s) (h : ∀ w ∈ t.writing, w ∈ s.writing) : CleanPlan s t := by
  intro w hw
  obtain ⟨x, hx, rfl⟩ := List.mem_map.1 hw
  obtain ⟨hx, hid⟩ := List.mem_filter.1 hx
  have hlt := hi.fresh x (h x hx)
  exact absurd (of_decide_eq_true hid) (by omega)

theorem cleanPlan_step {e : Event V} (hi : Inv s) (h : step s e = some s') : CleanPlan s s' := by
  cases e with
  | inventory devices =>
    cases h
    exact cleanPlan_of_no_write hi fun _ hw => hw
  | settle index confirmed =>
    obtain ⟨w, -, rfl⟩ := Option.map_eq_some_iff.1 h
    exact cleanPlan_of_no_write hi fun _ hw => List.mem_of_mem_eraseIdx hw
  | reapply target =>
    obtain ⟨device, -, rfl⟩ := Option.map_eq_some_iff.1 h
    unfold Sys.reapply
    split
    · exact cleanPlan_of_no_write hi fun _ hw => hw
    · obtain ⟨hok, hknown, -⟩ := reconnectFollowerCookies_spec s.config s.devices device s.state
      set out := reconnectFollowerCookies s.config s.devices device s.state with hout
      set s' : Sys V := { s with state := out.2 } with hs'
      obtain ⟨planned, hsp⟩ := Sys.spawned out.1 s'
      have hlinked : s'.linked = s.state.linkedLeads (hostSwitchPairs s.config) s.devices :=
        funext (FollowerCookieState.linkedLeads_congr hknown _ _)
      exact cleanPlan_of_spawned hi (rfl : s'.writing = s.writing) hsp (hlinked ▸ hok)
  | reload config =>
    cases h
    unfold Sys.reload
    obtain ⟨hok, hknown, -⟩ := changedFollowerCookies_spec s.config config s.devices s.state
    set out := changedFollowerCookies s.config config s.devices s.state with hout
    set s' : Sys V := { s with config := config, state := out.2, log := s.removedBy config ++ s.log } with hs'
    obtain ⟨planned, hsp⟩ := Sys.spawned out.1 s'
    have hlinked : s'.linked = s.state.linkedLeads (hostSwitchPairs config) s.devices :=
      funext (FollowerCookieState.linkedLeads_congr hknown _ _)
    exact cleanPlan_of_spawned hi (rfl : s'.writing = s.writing) hsp (hlinked ▸ hok)

/-- **No byte left behind is forgotten, and no plan clears a byte it must not.**  In every run every plan is clean, and
every byte that a removed link left on a device has been cleared by a write planned since, or is held back, in flight or
named by a linked keyboard, unless a linked keyboard that it named has since been seen with another byte. -/
theorem follower_cookies_kept (config : Config V) (es : List (Event V)) :
    EveryState step (fun s => NoneForgotten s ∧ ∀ e s', step s e = some s' → CleanPlan s s') (Sys.start config) es := by
  intro pre s _ hrun
  have hi : Inv s := run_inv Inv (fun _ _ _ hi h => inv_step hi h) pre _ s (inv_start config) hrun
  exact ⟨hi.none, fun _ _ h => cleanPlan_step hi h⟩

/-! ### A keyboard that is replaced -/

def mouse : String := "unit:0000000a"

def links (keyboards : List String) : Config Unit where
  devices := Std.ExtTreeMap.ofList (keyboards.map fun keyboard =>
    (keyboard, ({ hostSwitchTargets := [mouse] } : DeviceConfig Unit)))

/-- The keyboards in slots 1 and 2 and the mouse, with the last byte of the unit id of the second keyboard. -/
def desk (unit : UInt8) : List LinkDevice :=
  [⟨"receiver:r1:slot:1", ⟨[0, 0, 0, 1], rfl⟩, true, some (.bolt "r1" 1)⟩,
    ⟨"receiver:r1:slot:2", ⟨[0, 0] ++ [0, unit], rfl⟩, true, some (.bolt "r1" 2)⟩,
    ⟨mouse, ⟨[0, 0, 0, 10], rfl⟩, true, some (.bolt "r1" 3)⟩]

/-- The byte of unit ids 1 and 214. -/
def lead1 : LeadCookie := ⟨137, by decide⟩

def lead2 : LeadCookie := ⟨145, by decide⟩

/-- Two keyboards that share a byte are linked to the mouse.  The link of the first is removed, which clears nothing,
and the keyboard of the second is replaced. -/
def replacedRun : List (Event Unit) :=
  [.inventory (desk 214), .reload (links ["receiver:r1:slot:2"]), .inventory (desk 2)]

theorem replacedRun_eq :
    (run step (Sys.start (links ["receiver:r1:slot:1", "receiver:r1:slot:2"])) replacedRun).map (fun s =>
      (s.log, s.state.held mouse, s.writing.length, s.linked mouse)) =
      some ([.replaced mouse lead1, .removed mouse lead1], [], 0, [lead2]) := by
  decide +kernel

/-- **A byte left behind is forgotten**: it was not cleared, and is not held back, in flight or named by a keyboard
linked to the mouse. -/
theorem replaced_keyboard_forgotten :
    ∃ s since before, run step (Sys.start (links ["receiver:r1:slot:1", "receiver:r1:slot:2"])) replacedRun = some s ∧
      s.log = since ++ .removed mouse lead1 :: before ∧ ¬Kept s since mouse lead1 := by
  obtain ⟨s, hs, heq⟩ := Option.map_eq_some_iff.1 replacedRun_eq
  simp only [Prod.mk.injEq] at heq
  obtain ⟨hlog, hheld, hwriting, hlinked⟩ := heq
  refine ⟨s, [.replaced mouse lead1], [], hs, hlog, ?_⟩
  rintro (⟨id, hplanned, -⟩ | hmem | ⟨w, hw, -⟩ | hmem)
  · cases List.mem_singleton.1 hplanned
  · rw [hheld] at hmem
    cases hmem
  · rw [List.length_eq_zero_iff.1 hwriting] at hw
    cases hw
  · rw [hlinked] at hmem
    exact absurd (List.mem_singleton.1 hmem) (by decide)

end Cookies
end OpenLogi
