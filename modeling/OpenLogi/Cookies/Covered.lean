import Mathlib.Data.List.Induction
import OpenLogi.Cookies.Plan
/-!
# Covered — what a plan does to the bytes left behind

`Covered` holds of a byte on a device that a plan clears, that is held back, or that a linked keyboard still names.  No
step of a plan uncovers one, and every removed link is covered when its plan is made.  A plan clears no byte of a linked
keyboard and links no other, so that it never both clears and links one.
-/
namespace OpenLogi
namespace Cookies

open Hid
open OpenLogi.Config (BTreeMap Config)

variable {V : Type}

/-! ### The state between plans -/

namespace FollowerCookieState

variable {state : FollowerCookieState} {follower : String} {b : LeadCookie}

theorem mem_held_add {F : String} {lead : LeadCookie} :
    b ∈ (state.add follower lead).held F ↔ b ∈ state.held F ∨ F = follower ∧ b = lead := by
  by_cases h : F = follower
  · subst h
    simp [add]
  · simp [add, h]

theorem mem_held_forget {F : String} {lead : LeadCookie} :
    b ∈ (state.forget follower lead).held F ↔ b ∈ state.held F ∧ ¬(F = follower ∧ b = lead) := by
  by_cases h : F = follower
  · subst h
    simp [forget]
  · simp [forget, h]

theorem mem_held_take {F : String} :
    b ∈ (state.take follower).2.held F ↔ b ∈ state.held F ∧ F ≠ follower := by
  by_cases h : F = follower
  · subst h
    simp [take]
  · simp [take, h]

@[simp] theorem requeue_known : ∀ (leads : List LeadCookie) (state : FollowerCookieState) (follower : String),
    (state.requeue follower leads).known = state.known
  | [], _, _ => rfl
  | lead :: leads, state, follower => requeue_known leads (state.add follower lead) follower

theorem mem_held_requeue : ∀ (leads : List LeadCookie) {state : FollowerCookieState} {follower F : String}
    {b : LeadCookie},
    b ∈ (state.requeue follower leads).held F ↔ b ∈ state.held F ∨ F = follower ∧ b ∈ leads
  | [], _, _, _, _ => by simp [requeue]
  | lead :: leads, state, follower, F, b => by
    have ih : b ∈ ((state.add follower lead).requeue follower leads).held F ↔
        b ∈ (state.add follower lead).held F ∨ F = follower ∧ b ∈ leads := mem_held_requeue leads
    rw [show state.requeue follower (lead :: leads) = (state.add follower lead).requeue follower leads from rfl, ih,
      mem_held_add, List.mem_cons]
    tauto

theorem lead_congr {state' : FollowerCookieState} (h : state'.known = state.known) (devices : List LinkDevice)
    (keyboard : String) : state'.lead devices keyboard = state.lead devices keyboard := by
  rw [lead, lead, h]

theorem linkedLeads_congr {state' : FollowerCookieState} (h : state'.known = state.known)
    (pairs : List (String × String)) (devices : List LinkDevice) (follower : String) :
    state'.linkedLeads pairs devices follower = state.linkedLeads pairs devices follower := by
  simp only [linkedLeads, lead_congr h]

theorem mem_linkedLeads {pairs : List (String × String)} {devices : List LinkDevice} :
    b ∈ state.linkedLeads pairs devices follower ↔
      ∃ keyboard, (keyboard, follower) ∈ pairs ∧ state.lead devices keyboard = some b := by
  simp only [linkedLeads, List.mem_filterMap, List.mem_filter, decide_eq_true_eq]
  constructor
  · rintro ⟨⟨keyboard, follower⟩, ⟨hmem, rfl⟩, hlead⟩
    exact ⟨keyboard, hmem, hlead⟩
  · rintro ⟨keyboard, hmem, hlead⟩
    exact ⟨(keyboard, follower), ⟨hmem, rfl⟩, hlead⟩

/-- Remembering touches no held clear. -/
theorem rememberLeads_held : ∀ (devices : List LinkDevice) (state : FollowerCookieState),
    (state.rememberLeads devices).held = state.held
  | [], _ => rfl
  | device :: devices, state => by
    rw [rememberLeads, List.foldl_cons]
    refine (rememberLeads_held devices _).trans ?_
    split <;> rfl

end FollowerCookieState

/-! ### The writes of a plan -/

namespace CookiePlan

def releases (plan : CookiePlan) (follower : String) : List LeadCookie :=
  (plan[follower]?.map (·.release)).getD []

def links (plan : CookiePlan) (follower : String) : List LeadCookie := (plan[follower]?.map (·.link)).getD []

/-- Every write is filed under the key it carries. -/
def Keyed (plan : CookiePlan) : Prop :=
  ∀ (F : String) (write : FollowerCookieWrite), plan[F]? = some write → write.key = F

section
variable {plan : CookiePlan} {follower F : String} {route : DeviceRoute} {lead b : LeadCookie}

theorem entry_release : (plan.entry follower route).release = plan.releases follower := by
  rw [entry, releases]
  cases plan[follower]? <;> rfl

theorem entry_link : (plan.entry follower route).link = plan.links follower := by
  rw [entry, links]
  cases plan[follower]? <;> rfl

theorem entry_key (h : plan.Keyed) : (plan.entry follower route).key = follower := by
  rw [entry]
  cases hget : plan[follower]? with
  | none => rfl
  | some write => exact h follower write hget

theorem mem_releases_release :
    b ∈ (plan.release follower route lead).releases F ↔ b ∈ plan.releases F ∨ F = follower ∧ b = lead := by
  rw [release, releases, BTreeMap.getElem?_insert]
  split
  · rename_i h
    subst h
    simp [entry_release]
  · rename_i h
    simp [releases, Ne.symm h]

theorem links_release : (plan.release follower route lead).links F = plan.links F := by
  rw [release, links, BTreeMap.getElem?_insert]
  split
  · rename_i h
    subst h
    exact entry_link
  · rfl

theorem mem_links_link :
    b ∈ (plan.link follower route lead).links F ↔ b ∈ plan.links F ∨ F = follower ∧ b = lead := by
  rw [link, links, BTreeMap.getElem?_insert]
  split
  · rename_i h
    subst h
    simp [entry_link]
  · rename_i h
    simp [links, Ne.symm h]

theorem releases_link : (plan.link follower route lead).releases F = plan.releases F := by
  rw [link, releases, BTreeMap.getElem?_insert]
  split
  · rename_i h
    subst h
    exact entry_release
  · rfl

theorem Keyed.release (h : plan.Keyed) : (plan.release follower route lead).Keyed := by
  intro F write hget
  rw [CookiePlan.release, BTreeMap.getElem?_insert] at hget
  split at hget
  · rename_i heq
    cases hget
    exact (entry_key h).trans heq
  · exact h F write hget

theorem Keyed.link (h : plan.Keyed) : (plan.link follower route lead).Keyed := by
  intro F write hget
  rw [CookiePlan.link, BTreeMap.getElem?_insert] at hget
  split at hget
  · rename_i heq
    cases hget
    exact (entry_key h).trans heq
  · exact h F write hget

end

theorem mem_intoWrites {plan : CookiePlan} {write : FollowerCookieWrite} :
    write ∈ plan.intoWrites ↔ ∃ F : String, plan[F]? = some write := by
  rw [intoWrites, List.mem_map]
  constructor
  · rintro ⟨⟨F, write⟩, hmem, rfl⟩
    exact ⟨F, Std.ExtTreeMap.mem_toList_iff_getElem?_eq_some.mp hmem⟩
  · rintro ⟨F, hget⟩
    exact ⟨(F, write), Std.ExtTreeMap.mem_toList_iff_getElem?_eq_some.mpr hget, rfl⟩

end CookiePlan

/-! ### What a plan keeps -/

/-- A plan in the making and the state it is made from. -/
abbrev Planning := CookiePlan × FollowerCookieState

section Planning

variable (linked : String → List LeadCookie) (known : String → Option LeadCookie)

/-- A plan clears only what no linked keyboard names, and links only what one does. -/
structure Sound (acc : Planning) : Prop where
  clears : ∀ F, ∀ b ∈ acc.1.releases F, b ∉ linked F
  links : ∀ F, ∀ b ∈ acc.1.links F, b ∈ linked F
  keyed : acc.1.Keyed
  known : acc.2.known = known

/-- A byte on a device is held back, cleared by the plan, or named by a keyboard linked to the device. -/
def Covered (acc : Planning) (F : String) (b : LeadCookie) : Prop :=
  b ∈ acc.2.held F ∨ b ∈ acc.1.releases F ∨ b ∈ linked F

/-- From a sound plan to a sound plan that covers no less. -/
def Extends (acc acc' : Planning) : Prop :=
  Sound linked known acc → Sound linked known acc' ∧ ∀ F b, Covered linked acc F b → Covered linked acc' F b

variable {linked known} {acc acc' acc'' : Planning}

theorem Extends.refl : Extends linked known acc acc := fun h => ⟨h, fun _ _ hc => hc⟩

theorem Extends.trans (h : Extends linked known acc acc') (h' : Extends linked known acc' acc'') :
    Extends linked known acc acc'' := fun hs =>
  ⟨(h' (h hs).1).1, fun F b hc => (h' (h hs).1).2 F b ((h hs).2 F b hc)⟩

theorem Extends.foldl {α : Type} {f : Planning → α → Planning} :
    ∀ (l : List α) (acc : Planning), (∀ x ∈ l, ∀ acc, Extends linked known acc (f acc x)) →
      Extends linked known acc (l.foldl f acc)
  | [], _, _ => Extends.refl
  | x :: l, acc, h => (h x (by simp) acc).trans (Extends.foldl l (f acc x) fun y hy => h y (by simp [hy]))

variable {F : String} {b : LeadCookie}

theorem extends_release {route : DeviceRoute} (hb : b ∉ linked F) :
    Extends linked known acc (acc.1.release F route b, acc.2) := by
  intro hs
  constructor
  · refine ⟨fun F' b' hmem => ?_, fun F' b' hmem => ?_, hs.keyed.release, hs.known⟩
    · obtain hmem | ⟨rfl, rfl⟩ := CookiePlan.mem_releases_release.1 hmem
      · exact hs.clears F' b' hmem
      · exact hb
    · rw [CookiePlan.links_release] at hmem
      exact hs.links F' b' hmem
  · rintro F' b' (hheld | hrel | hlinked)
    · exact .inl hheld
    · exact .inr (.inl (CookiePlan.mem_releases_release.2 (.inl hrel)))
    · exact .inr (.inr hlinked)

theorem extends_link {route : DeviceRoute} (hb : b ∈ linked F) :
    Extends linked known acc (acc.1.link F route b, acc.2) := by
  intro hs
  constructor
  · refine ⟨fun F' b' hmem => ?_, fun F' b' hmem => ?_, hs.keyed.link, hs.known⟩
    · rw [CookiePlan.releases_link] at hmem
      exact hs.clears F' b' hmem
    · obtain hmem | ⟨rfl, rfl⟩ := CookiePlan.mem_links_link.1 hmem
      · exact hs.links F' b' hmem
      · exact hb
  · rintro F' b' (hheld | hrel | hlinked)
    · exact .inl hheld
    · exact .inr (.inl (by rwa [CookiePlan.releases_link]))
    · exact .inr (.inr hlinked)

theorem extends_add : Extends linked known acc (acc.1, acc.2.add F b) := fun hs =>
  ⟨⟨hs.clears, hs.links, hs.keyed, hs.known⟩, fun _ _ hc =>
    hc.imp_left fun hheld => FollowerCookieState.mem_held_add.2 (.inl hheld)⟩

/-- Only a byte that is linked is forgotten. -/
theorem extends_forget (hb : b ∈ linked F) :
    Extends linked known acc (acc.1, acc.2.forget F b) := by
  refine fun hs => ⟨⟨hs.clears, hs.links, hs.keyed, hs.known⟩, ?_⟩
  rintro F' b' (hheld | hrest)
  · by_cases heq : F' = F ∧ b' = b
    · exact .inr (.inr (heq.1 ▸ heq.2 ▸ hb))
    · exact .inl (FollowerCookieState.mem_held_forget.2 ⟨hheld, heq⟩)
  · exact .inr hrest

/-- The held clears of a device leave the state only into the plan, or because a linked keyboard names them. -/
theorem extends_taken (F : String) (route : DeviceRoute) :
    Extends linked known acc
      ((acc.2.held F).foldl (fun plan lead => if lead ∈ linked F then plan else plan.release F route lead) acc.1,
        (acc.2.take F).2) := by
  have hfold : ∀ (leads : List LeadCookie) (acc : Planning),
      Extends linked known acc
        (leads.foldl (fun plan lead => if lead ∈ linked F then plan else plan.release F route lead) acc.1, acc.2) ∧
      ∀ b ∈ leads, b ∉ linked F →
        b ∈ (leads.foldl (fun plan lead => if lead ∈ linked F then plan else plan.release F route lead)
          acc.1).releases F := by
    intro leads
    induction leads using List.reverseRecOn with
    | nil => exact fun acc => ⟨Extends.refl, by simp⟩
    | append_singleton leads lead ih =>
      intro acc
      obtain ⟨hext, hmem⟩ := ih acc
      simp only [List.foldl_append, List.foldl_cons, List.foldl_nil]
      by_cases hl : lead ∈ linked F
      · simp only [if_pos hl]
        refine ⟨hext, fun b hb hbl => ?_⟩
        obtain hb | hb := List.mem_append.1 hb
        · exact hmem b hb hbl
        · exact absurd (List.mem_singleton.1 hb ▸ hl) hbl
      · simp only [if_neg hl]
        refine ⟨hext.trans (extends_release hl), fun b hb hbl => ?_⟩
        rw [CookiePlan.mem_releases_release]
        obtain hb | hb := List.mem_append.1 hb
        · exact .inl (hmem b hb hbl)
        · exact .inr ⟨rfl, List.mem_singleton.1 hb⟩
  intro hs
  obtain ⟨hext, hmem⟩ := hfold (acc.2.held F) acc
  obtain ⟨hs', hcov⟩ := hext hs
  refine ⟨⟨hs'.clears, hs'.links, hs'.keyed, hs.known⟩, fun F' b hc => ?_⟩
  obtain hheld | hrest := hcov F' b hc
  · by_cases heq : F' = F
    · subst heq
      by_cases hl : b ∈ linked F'
      · exact .inr (.inr hl)
      · exact .inr (.inl (hmem b hheld hl))
    · exact .inl (FollowerCookieState.mem_held_take.2 ⟨hheld, heq⟩)
  · exact .inr hrest

end Planning

section Changed

variable {config : Config V} {devices : List LinkDevice} {pairs : List (String × String)}
  {known : String → Option LeadCookie} {acc : Planning}

/-- The bytes of the keyboards linked to each device, by what was last seen of them. -/
def linkedBy (pairs : List (String × String)) (devices : List LinkDevice) (known : String → Option LeadCookie)
    (F : String) : List LeadCookie :=
  FollowerCookieState.linkedLeads ⟨fun _ => [], known⟩ pairs devices F

theorem linkedLeads_eq (h : acc.2.known = known) (F : String) :
    acc.2.linkedLeads pairs devices F = linkedBy pairs devices known F :=
  FollowerCookieState.linkedLeads_congr h pairs devices F

theorem extends_followerOnline {F : String} {route : DeviceRoute} :
    Extends (linkedBy pairs devices known) known acc (acc.1.followerOnline pairs devices F route acc.2) := by
  intro hs
  have hlinked : acc.2.linkedLeads pairs devices F = linkedBy pairs devices known F := linkedLeads_eq hs.known F
  have htaken : Extends (linkedBy pairs devices known) known acc _ := extends_taken F route
  have hlink : ∀ (leads : List LeadCookie) (acc : Planning), (∀ b ∈ leads, b ∈ linkedBy pairs devices known F) →
      Extends (linkedBy pairs devices known) known acc
        (leads.foldl (fun plan lead => plan.link F route lead) acc.1, acc.2) := by
    intro leads
    induction leads with
    | nil => exact fun acc _ => Extends.refl
    | cons lead leads ih =>
      intro acc h
      exact (extends_link (h lead (by simp))).trans
        (ih (acc.1.link F route lead, acc.2) fun b hb => h b (by simp [hb]))
  have hall := htaken.trans (hlink (linkedBy pairs devices known F) _ fun b hb => hb)
  simp only [CookiePlan.followerOnline, FollowerCookieState.take, hlinked] at hall ⊢
  exact hall hs

theorem extends_changedRemoved (config : Config V) (pair : String × String) :
    Extends (linkedBy pairs devices known) known acc (changedRemoved pairs config devices acc.1 acc.2 pair) := by
  intro hs
  unfold changedRemoved
  cases acc.2.lead devices pair.1 with
  | none => exact Extends.refl hs
  | some lead =>
    simp only [linkedLeads_eq hs.known]
    split
    · exact Extends.refl hs
    · rename_i hl
      cases writableFollower config devices pair.2 with
      | none => exact extends_add hs
      | some route => exact extends_release hl hs

/-- **A removed link is covered when its plan is made.** -/
theorem covered_changedRemoved {pair : String × String} {b : LeadCookie} (hs : acc.2.known = known)
    (hlead : FollowerCookieState.lead ⟨fun _ => [], known⟩ devices pair.1 = some b) :
    Covered (linkedBy pairs devices known) (changedRemoved pairs config devices acc.1 acc.2 pair) pair.2 b := by
  unfold changedRemoved
  have hcongr : acc.2.lead devices pair.1 = FollowerCookieState.lead ⟨fun _ => [], known⟩ devices pair.1 :=
    FollowerCookieState.lead_congr hs devices pair.1
  rw [hcongr, hlead]
  simp only [linkedLeads_eq hs]
  split
  · rename_i hl
    exact .inr (.inr hl)
  · cases writableFollower config devices pair.2 with
    | none => exact .inl (FollowerCookieState.mem_held_add.2 (.inr ⟨rfl, rfl⟩))
    | some route => exact .inr (.inl (CookiePlan.mem_releases_release.2 (.inr ⟨rfl, rfl⟩)))

theorem extends_changedAdded {pair : String × String} (hpair : pair ∈ pairs) :
    Extends (linkedBy pairs devices known) known acc (changedAdded config devices acc.1 acc.2 pair) := by
  intro hs
  unfold changedAdded
  cases hlead : acc.2.lead devices pair.1 with
  | none => exact Extends.refl hs
  | some lead =>
    have hmem : lead ∈ linkedBy pairs devices known pair.2 := by
      rw [← linkedLeads_eq hs.known]
      exact FollowerCookieState.mem_linkedLeads.2 ⟨pair.1, hpair, hlead⟩
    cases writableFollower config devices pair.2 with
    | none => exact extends_forget hmem hs
    | some route => exact (extends_forget hmem).trans (extends_link hmem) hs

theorem extends_changedEnabled {previous : Config V} (device : LinkDevice) :
    Extends (linkedBy pairs devices known) known acc
      (changedEnabled pairs config devices previous acc.1 acc.2 device) := by
  unfold changedEnabled
  split
  · exact Extends.refl
  · cases writableFollower config devices device.configKey with
    | none => exact Extends.refl
    | some route => exact extends_followerOnline

end Changed

/-! ### Whole plans -/

/-- What the writes of a plan promise, by the bytes of the keyboards linked after it: one write a device, no byte of a
linked keyboard cleared, and only such bytes linked. -/
structure PlanOk (linked : String → List LeadCookie) (writes : List FollowerCookieWrite) : Prop where
  once : ∀ w ∈ writes, ∀ w' ∈ writes, w.key = w'.key → w = w'
  clears : ∀ w ∈ writes, ∀ b ∈ w.release, b ∉ linked w.key
  links : ∀ w ∈ writes, ∀ b ∈ w.link, b ∈ linked w.key

variable {linked : String → List LeadCookie}

theorem Sound.planOk {known : String → Option LeadCookie} {acc : Planning} (h : Sound linked known acc) :
    PlanOk linked acc.1.intoWrites := by
  have hget : ∀ w ∈ acc.1.intoWrites, acc.1[w.key]? = some w := by
    intro w hw
    obtain ⟨F, hF⟩ := CookiePlan.mem_intoWrites.1 hw
    rw [h.keyed F w hF, hF]
  refine ⟨fun w hw w' hw' heq => ?_, fun w hw b hb => ?_, fun w hw b hb => ?_⟩
  · have h1 := hget w hw
    rw [heq, hget w' hw'] at h1
    exact (Option.some.inj h1).symm
  · exact h.clears w.key b (by simpa [CookiePlan.releases, hget w hw] using hb)
  · exact h.links w.key b (by simpa [CookiePlan.links, hget w hw] using hb)

/-- A byte a plan clears is in the write of its device. -/
theorem mem_releases {plan : CookiePlan} (hk : plan.Keyed) {F : String} {b : LeadCookie} (h : b ∈ plan.releases F) :
    ∃ w ∈ plan.intoWrites, w.key = F ∧ b ∈ w.release := by
  unfold CookiePlan.releases at h
  cases hget : plan[F]? with
  | none => simp [hget] at h
  | some w => exact ⟨w, CookiePlan.mem_intoWrites.2 ⟨F, hget⟩, hk F w hget, by simpa [hget] using h⟩

theorem sound_empty (state : FollowerCookieState) :
    Sound linked state.known ((∅ : CookiePlan), state) :=
  ⟨by simp [CookiePlan.releases], by simp [CookiePlan.links], by simp [CookiePlan.Keyed], rfl⟩

/-- What the writes of a plan and the state it leaves do for a byte on a device. -/
def Accounts (linked : String → List LeadCookie) (out : List FollowerCookieWrite × FollowerCookieState) (F : String)
    (b : LeadCookie) : Prop :=
  b ∈ out.2.held F ∨ (∃ w ∈ out.1, w.key = F ∧ b ∈ w.release) ∨ b ∈ linked F

theorem Covered.accounts {known : String → Option LeadCookie} {acc : Planning} (h : Sound linked known acc) {F : String}
    {b : LeadCookie} (hc : Covered linked acc F b) :
    Accounts linked (acc.1.intoWrites, acc.2) F b :=
  hc.imp_right (Or.imp_left (mem_releases h.keyed))

/-- **The writes of a config change**: they promise what a plan promises, and every byte that was held back or named by
a link the change removed is accounted for. -/
theorem changedFollowerCookies_spec (previous config : Config V) (devices : List LinkDevice)
    (state : FollowerCookieState) :
    let out := changedFollowerCookies previous config devices state
    let linked := state.linkedLeads (hostSwitchPairs config) devices
    PlanOk linked out.1 ∧ out.2.known = state.known ∧
      (∀ F, ∀ b ∈ state.held F, Accounts linked out F b) ∧
      ∀ keyboard F b, (keyboard, F) ∈ hostSwitchPairs previous → state.lead devices keyboard = some b →
        Accounts linked out F b := by
  intro out linked
  have hlinked : linked = linkedBy (hostSwitchPairs config) devices state.known := by
    funext F
    exact FollowerCookieState.linkedLeads_congr rfl _ _ F
  set L := linkedBy (hostSwitchPairs config) devices state.known with hL
  set removed := ((hostSwitchPairs previous).filter (· ∉ hostSwitchPairs config)).foldl (fun acc pair =>
    changedRemoved (hostSwitchPairs config) config devices acc.1 acc.2 pair) ((∅ : CookiePlan), state) with hremoved
  set added := ((hostSwitchPairs config).filter (· ∉ hostSwitchPairs previous)).foldl (fun acc pair =>
    changedAdded config devices acc.1 acc.2 pair) removed with hadded
  set enabled := devices.foldl (fun acc device =>
    changedEnabled (hostSwitchPairs config) config devices previous acc.1 acc.2 device) added with henabled
  have hrem : ∀ (l : List (String × String)) (acc : Planning), Extends L state.known acc
      (l.foldl (fun acc pair => changedRemoved (hostSwitchPairs config) config devices acc.1 acc.2 pair) acc) :=
    fun l acc => Extends.foldl l acc fun pair _ acc => extends_changedRemoved config pair
  have hadd : Extends L state.known removed added :=
    Extends.foldl _ _ fun pair hpair acc => extends_changedAdded (List.mem_filter.1 hpair).1
  have hen : Extends L state.known added enabled := Extends.foldl _ _ fun device _ acc => extends_changedEnabled device
  have hstart : Sound L state.known ((∅ : CookiePlan), state) := sound_empty state
  obtain ⟨hsremoved, hcremoved⟩ := hrem _ _ hstart
  obtain ⟨hs, hc⟩ := (hadd.trans hen) hsremoved
  rw [hlinked]
  refine ⟨hs.planOk, hs.known, fun F b hb => ?_, fun keyboard F b hpair hlead => ?_⟩
  · exact (hc F b (hcremoved F b (.inl hb))).accounts hs
  · refine Covered.accounts hs (hc F b ?_)
    by_cases hafter : (keyboard, F) ∈ hostSwitchPairs config
    · refine .inr (.inr ?_)
      rw [← hlinked]
      exact FollowerCookieState.mem_linkedLeads.2 ⟨keyboard, hafter, hlead⟩
    · obtain ⟨pre, post, hsplit⟩ := List.append_of_mem
        (List.mem_filter.2 ⟨hpair, decide_eq_true hafter⟩ :
          (keyboard, F) ∈ (hostSwitchPairs previous).filter (· ∉ hostSwitchPairs config))
      rw [hremoved, hsplit, List.foldl_append, List.foldl_cons]
      have hpre := (hrem pre _ hstart).1
      have hpair := (extends_changedRemoved config (keyboard, F) hpre).1
      exact (hrem post _ hpair).2 F b
        (covered_changedRemoved hpre.known hlead)

/-- **The writes of a reconnect**: they promise what a plan promises, and every held byte is accounted for. -/
theorem reconnectFollowerCookies_spec (config : Config V) (devices : List LinkDevice) (device : LinkDevice)
    (state : FollowerCookieState) :
    let out := reconnectFollowerCookies config devices device state
    let linked := state.linkedLeads (hostSwitchPairs config) devices
    PlanOk linked out.1 ∧ out.2.known = state.known ∧ ∀ F, ∀ b ∈ state.held F, Accounts linked out F b := by
  intro out linked
  have hlinked : linked = linkedBy (hostSwitchPairs config) devices state.known := by
    funext F
    exact FollowerCookieState.linkedLeads_congr rfl _ _ F
  set L := linkedBy (hostSwitchPairs config) devices state.known with hL
  set online : Planning := reconnectOnline config devices device.configKey state with honline
  have hon : Extends L state.known ((∅ : CookiePlan), state) online := by
    rw [honline, reconnectOnline]
    cases writableFollower config devices device.configKey with
    | none => exact Extends.refl
    | some route => exact extends_followerOnline
  have hlink : ∀ (l : List (String × String)) (plan : CookiePlan), (∀ pair ∈ l, pair ∈ hostSwitchPairs config) →
      Extends L state.known (plan, online.2)
        (l.foldl (reconnectLink config devices device.configKey online.2) plan, online.2) := by
    intro l
    induction l with
    | nil => exact fun plan _ => Extends.refl
    | cons pair l ih =>
      intro plan h
      refine Extends.trans ?_ (ih _ fun p hp => h p (by simp [hp]))
      intro hs
      unfold reconnectLink
      split
      · exact Extends.refl hs
      · split
        · rename_i lead route hlead _
          refine extends_link ?_ hs
          rw [hL, ← linkedLeads_eq hs.known]
          exact FollowerCookieState.mem_linkedLeads.2 ⟨pair.1, h pair (by simp), hlead⟩
        · exact Extends.refl hs
  obtain ⟨hs, hc⟩ := (hon.trans (hlink (hostSwitchPairs config) online.1 fun _ h => h)) (sound_empty state)
  rw [hlinked]
  exact ⟨hs.planOk, hs.known, fun F b hb => (hc F b (.inl hb)).accounts hs⟩

end Cookies
end OpenLogi
