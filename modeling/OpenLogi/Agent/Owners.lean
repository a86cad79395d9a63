import OpenLogi.Agent.Keyboards
/-!
# Owners — one owner for a diverted control

Within a plan no control is in two divert sets, and the keyboard session of a route keeps its controls out of every plan
of the route.  Two plans of one route are not kept apart: a direct route names a model, so that two wired devices of one
model share it, and each is planned for.
-/
namespace OpenLogi
namespace Agent

open OpenLogi.Core
open Hid (DeviceRoute)
open Session (gestureSourceButtons)

/-! ## The arms of one session -/

section
variable {config : Config} {c : Context} {osMouseHookAvailable : Bool}

/-- Every control that a plan can name, with the button it is. -/
def controls : List (UInt16 × ButtonId) :=
  divertableStandardButtons ++ gestureSourceButtons ++ dpiModeShiftCids.map fun cid => (cid, .dpiToggle)

theorem nodup_controls : (controls.map Prod.fst).Nodup := by decide

variable {b : ButtonId} {p : UInt16 × ButtonId}

theorem button_of_control {cid : UInt16} {b' : ButtonId} (h : (cid, b) ∈ controls) (h' : (cid, b') ∈ controls) :
    b = b' :=
  congrArg Prod.snd (List.inj_on_of_nodup_map nodup_controls h h' rfl)

theorem standard_control (h : p ∈ divertableStandardButtons) : p ∈ controls :=
  List.mem_append_left _ (List.mem_append_left _ h)

theorem source_control (h : p ∈ gestureSourceButtons) : p ∈ controls :=
  List.mem_append_left _ (List.mem_append_right _ h)

theorem dpi_control {cid : UInt16} (h : cid ∈ dpiModeShiftCids) : (cid, .dpiToggle) ∈ controls :=
  List.mem_append_right _ (List.mem_map_of_mem h)

/-- A standard button is no gesture source. -/
theorem not_source_of_standard (h : p ∈ divertableStandardButtons) :
    p.2.isHidppGestureSource = false := by
  have hall : ∀ p ∈ divertableStandardButtons, p.2.isHidppGestureSource = false := by decide
  exact hall p h

theorem source_of_source (h : p ∈ gestureSourceButtons) :
    p.2.isHidppGestureSource = true ∧ p.2.isOsHookButton = false ∧ p.2 ≠ .dpiToggle := by
  have hall : ∀ p ∈ gestureSourceButtons,
      p.2.isHidppGestureSource = true ∧ p.2.isOsHookButton = false ∧ p.2 ≠ .dpiToggle := by decide
  exact hall p h

/-- A gesture map is one of a gesture source. -/
theorem source_of_map (h : (config.hidppGestureMapsFor c b).isSome = true) :
    b.isHidppGestureSource = true := by
  unfold Config.hidppGestureMapsFor at h
  split at h
  · assumption
  · cases h

theorem gestures_of_side (h : (config.hidppSideGestureMapsFor c b).isSome = true) :
    (config.oshookGesturesFor c b).isSome = true := by
  unfold Config.hidppSideGestureMapsFor at h
  split at h
  · cases h
  · exact h

theorem hook_of_gestures (h : (config.oshookGesturesFor c b).isSome = true) :
    b.isOsHookButton = true := by
  unfold Config.oshookGesturesFor at h
  split at h
  · assumption
  · cases h

/-- A button held for the wheel is no gesture button. -/
theorem gestures_of_wheelHold (h : ((config.buttonBindingsFor c).get b).any Binding.isWheelHold = true) :
    config.oshookGesturesFor c b = none := by
  unfold Config.oshookGesturesFor
  split
  · rw [Config.get_buttonBindingsFor] at h
    cases hstored : (config.effective c).get b with
    | none => rfl
    | some binding =>
      rw [hstored] at h
      cases binding with
      | gesture directions => cases h
      | _ => rfl
  · rfl

end

/-! ## The sets of a plan -/

section
variable (config : Config) (c : Context) (osMouseHookAvailable : Bool)

/-- Whether the bindings ask for the press or the motion of a standard button. -/
def asksButton (button : ButtonId) : Bool :=
  if (config.oshookGesturesFor c button).isSome then
    osMouseHookAvailable && (config.hidppSideGestureMapsFor c button).isSome
  else (config.appSettings.captureMouseEvents || !button.isOsHookButton) &&
    ((config.buttonBindingsFor c).get button).any (needsPress button)

/-- Whether the bindings ask for a control. -/
def asks (cid : UInt16) : Bool :=
  divertableStandardButtons.any (fun p => p.1 = cid && asksButton config c osMouseHookAvailable p.2) ||
  gestureSourceButtons.any (fun p => p.1 = cid &&
    ((config.hidppGestureMapsFor c p.2).isSome || asksButton config c osMouseHookAvailable p.2)) ||
  dpiModeShiftCids.contains cid && (config.hidppGestureMapsFor c .dpiToggle).isSome

variable {config c osMouseHookAvailable}

variable {p : UInt16 × ButtonId} {cid : UInt16}

theorem mem_divertWheelButtons : p ∈ divertWheelButtons config c osMouseHookAvailable ↔
    osMouseHookAvailable = true ∧ config.appSettings.captureMouseEvents = true ∧ p ∈ divertableStandardButtons ∧
      p.2.supportsWheelHold = true ∧ ((config.buttonBindingsFor c).get p.2).any Binding.isWheelHold = true := by
  unfold divertWheelButtons
  split
  · rename_i h
    simp only [Bool.and_eq_true] at h
    simp [h.1, h.2, List.mem_filter]
  · rename_i h
    simp only [Bool.and_eq_true, not_and] at h
    simp only [List.not_mem_nil, false_iff]
    rintro ⟨hhook, hcapture, _⟩
    exact h hhook hcapture

theorem mem_divertGestureButtons : p ∈ divertGestureButtons config c osMouseHookAvailable ↔
    (osMouseHookAvailable = true ∧ p ∈ divertableStandardButtons ∧
      (config.hidppSideGestureMapsFor c p.2).isSome = true) ∨
    ((config.hidppGestureMapsFor c .dpiToggle).isSome = true ∧ p.1 ∈ dpiModeShiftCids ∧ p.2 = .dpiToggle) := by
  obtain ⟨cid, b⟩ := p
  unfold divertGestureButtons
  rw [List.mem_append]
  refine or_congr ?_ ?_
  · split <;> simp [*]
  · split
    · rename_i h
      simp only [List.mem_map, Prod.mk.injEq, h, true_and]
      constructor
      · rintro ⟨cid', hin, rfl, rfl⟩
        exact ⟨hin, rfl⟩
      · rintro ⟨hin, rfl⟩
        exact ⟨cid, hin, rfl, rfl⟩
    · rename_i h
      simp [h]

theorem mem_divertGestureSources : cid ∈ divertGestureSources config c ↔
    ∃ b, (cid, b) ∈ gestureSourceButtons ∧ (config.hidppGestureMapsFor c b).isSome = true := by
  simp [divertGestureSources]

theorem mem_divertButtons : p ∈ divertButtons config c osMouseHookAvailable ↔
    (p ∈ divertableStandardButtons ∨
      (p ∈ gestureSourceButtons ∧ (config.hidppGestureMapsFor c p.2).isSome = false)) ∧
    (config.oshookGesturesFor c p.2).isSome = false ∧ p ∉ divertWheelButtons config c osMouseHookAvailable ∧
    asksButton config c osMouseHookAvailable p.2 = true := by
  unfold divertButtons asksButton
  simp only [List.mem_filter, List.mem_append, Bool.and_eq_true, Bool.not_eq_eq_eq_not, Bool.not_true,
    List.contains_eq_mem, decide_eq_false_iff_not]
  refine and_congr Iff.rfl ⟨?_, ?_⟩
  · rintro ⟨⟨⟨hcapture, hnone⟩, hwheel⟩, hpress⟩
    rw [hnone]
    exact ⟨rfl, hwheel, by simp [hpress] at hcapture ⊢; exact hcapture⟩
  · rintro ⟨hnone, hwheel, hasks⟩
    rw [hnone] at hasks
    simp only [Bool.false_eq_true, if_false, Bool.and_eq_true] at hasks
    exact ⟨⟨⟨hasks.1, hnone⟩, hwheel⟩, hasks.2⟩

/-! ## One arm a control -/

theorem mem_cids {l : List (UInt16 × ButtonId)} : cid ∈ l.map Prod.fst ↔ ∃ b, (cid, b) ∈ l := by
  simp

theorem control_of_button (h : p ∈ divertButtons config c osMouseHookAvailable) :
    p ∈ controls :=
  (mem_divertButtons.1 h).1.elim standard_control fun hs => source_control hs.1

theorem control_of_gesture (h : p ∈ divertGestureButtons config c osMouseHookAvailable) :
    p ∈ controls := by
  rcases mem_divertGestureButtons.1 h with ⟨_, hs, _⟩ | ⟨_, hd, hb⟩
  · exact standard_control hs
  · obtain ⟨cid, b⟩ := p
    obtain rfl : b = .dpiToggle := hb
    exact dpi_control hd

theorem buttons_gestures : List.Disjoint ((divertButtons config c osMouseHookAvailable).map Prod.fst)
    ((divertGestureButtons config c osMouseHookAvailable).map Prod.fst) := by
  intro cid ha hb
  obtain ⟨b, ha⟩ := mem_cids.1 ha
  obtain ⟨b', hb⟩ := mem_cids.1 hb
  obtain rfl := button_of_control (control_of_button ha) (control_of_gesture hb)
  obtain ⟨htable, hnone, _⟩ := mem_divertButtons.1 ha
  rcases mem_divertGestureButtons.1 hb with ⟨_, _, hside⟩ | ⟨hmap, _, hdpi⟩
  · rw [gestures_of_side hside] at hnone
    cases hnone
  · obtain rfl : b = .dpiToggle := hdpi
    rcases htable with hs | ⟨hs, _⟩
    · cases not_source_of_standard hs
    · exact (source_of_source hs).2.2 rfl

theorem buttons_sources : List.Disjoint ((divertButtons config c osMouseHookAvailable).map Prod.fst)
    (divertGestureSources config c) := by
  intro cid ha hb
  obtain ⟨b, ha⟩ := mem_cids.1 ha
  obtain ⟨b', hsource, hmap⟩ := mem_divertGestureSources.1 hb
  obtain rfl := button_of_control (control_of_button ha) (source_control hsource)
  rcases (mem_divertButtons.1 ha).1 with hs | ⟨_, hnone⟩
  · exact absurd (source_of_map hmap) (Bool.eq_false_iff.1 (not_source_of_standard hs))
  · rw [hmap] at hnone
    cases hnone

theorem buttons_wheel : List.Disjoint ((divertButtons config c osMouseHookAvailable).map Prod.fst)
    ((divertWheelButtons config c osMouseHookAvailable).map Prod.fst) := by
  intro cid ha hb
  obtain ⟨b, ha⟩ := mem_cids.1 ha
  obtain ⟨b', hb⟩ := mem_cids.1 hb
  obtain rfl := button_of_control (control_of_button ha) (standard_control (mem_divertWheelButtons.1 hb).2.2.1)
  exact (mem_divertButtons.1 ha).2.2.1 hb

theorem gestures_sources : List.Disjoint ((divertGestureButtons config c osMouseHookAvailable).map Prod.fst)
    (divertGestureSources config c) := by
  intro cid ha hb
  obtain ⟨b, ha⟩ := mem_cids.1 ha
  obtain ⟨b', hsource, _⟩ := mem_divertGestureSources.1 hb
  obtain rfl := button_of_control (control_of_gesture ha) (source_control hsource)
  rcases mem_divertGestureButtons.1 ha with ⟨_, hs, _⟩ | ⟨_, _, hdpi⟩
  · exact absurd (source_of_source hsource).1 (Bool.eq_false_iff.1 (not_source_of_standard hs))
  · exact (source_of_source hsource).2.2 hdpi

theorem gestures_wheel : List.Disjoint ((divertGestureButtons config c osMouseHookAvailable).map Prod.fst)
    ((divertWheelButtons config c osMouseHookAvailable).map Prod.fst) := by
  intro cid ha hb
  obtain ⟨b, ha⟩ := mem_cids.1 ha
  obtain ⟨b', hb⟩ := mem_cids.1 hb
  obtain ⟨_, _, hs, _, hwheel⟩ := mem_divertWheelButtons.1 hb
  obtain rfl := button_of_control (control_of_gesture ha) (standard_control hs)
  rcases mem_divertGestureButtons.1 ha with ⟨_, _, hside⟩ | ⟨_, _, hdpi⟩
  · have hgestures := gestures_of_side hside
    rw [gestures_of_wheelHold hwheel] at hgestures
    cases hgestures
  · obtain rfl : b = .dpiToggle := hdpi
    cases not_source_of_standard hs

theorem sources_wheel : List.Disjoint (divertGestureSources config c)
    ((divertWheelButtons config c osMouseHookAvailable).map Prod.fst) := by
  intro cid ha hb
  obtain ⟨b, hsource, _⟩ := mem_divertGestureSources.1 ha
  obtain ⟨b', hb⟩ := mem_cids.1 hb
  obtain ⟨_, _, hs, _⟩ := mem_divertWheelButtons.1 hb
  obtain rfl := button_of_control (source_control hsource) (standard_control hs)
  exact absurd (source_of_source hsource).1 (Bool.eq_false_iff.1 (not_source_of_standard hs))

/-- **No control is in two sets of one plan.** -/
theorem pairwise_divertSets (platform : AppPlatform) (device : PlanDevice) (app : Option String) (generation : Nat) :
    (planForDevice config platform device app generation osMouseHookAvailable).target.spec.divertSets.Pairwise
      List.Disjoint := by
  simp only [planForDevice, CaptureSpec.divertSets, List.pairwise_cons, List.mem_cons, List.not_mem_nil, or_false,
    forall_eq_or_imp, forall_eq, IsEmpty.forall_iff, implies_true, List.Pairwise.nil, and_true]
  exact ⟨⟨buttons_gestures, buttons_sources, buttons_wheel⟩, ⟨gestures_sources, gestures_wheel⟩, sources_wheel⟩

/-! ## What a plan names -/

theorem standard_of_any {p : ButtonId → Bool} {table : List (UInt16 × ButtonId)} :
    table.any (fun q => decide (q.1 = cid) && p q.2) = true ↔ ∃ b, (cid, b) ∈ table ∧ p b = true := by
  simp only [List.any_eq_true, Bool.and_eq_true, decide_eq_true_eq, Prod.exists]
  constructor
  · rintro ⟨_, b, hin, rfl, hp⟩
    exact ⟨b, hin, hp⟩
  · rintro ⟨b, hin, hp⟩
    exact ⟨cid, b, hin, rfl, hp⟩

theorem asks_iff : asks config c osMouseHookAvailable cid = true ↔
    (∃ b, (cid, b) ∈ divertableStandardButtons ∧ asksButton config c osMouseHookAvailable b = true) ∨
    (∃ b, (cid, b) ∈ gestureSourceButtons ∧
      ((config.hidppGestureMapsFor c b).isSome = true ∨ asksButton config c osMouseHookAvailable b = true)) ∨
    (cid ∈ dpiModeShiftCids ∧ (config.hidppGestureMapsFor c .dpiToggle).isSome = true) := by
  unfold asks
  rw [Bool.or_eq_true, Bool.or_eq_true, standard_of_any,
    standard_of_any (p := fun b => (config.hidppGestureMapsFor c b).isSome ||
      asksButton config c osMouseHookAvailable b), or_assoc]
  simp only [Bool.or_eq_true, Bool.and_eq_true, List.contains_eq_mem, decide_eq_true_eq]

/-- **A plan names a control when the bindings ask for it.** -/
theorem mem_divertSets (platform : AppPlatform) (device : PlanDevice) (app : Option String) (generation : Nat)
    (cid : UInt16) :
    (∃ set ∈ (planForDevice config platform device app generation osMouseHookAvailable).target.spec.divertSets,
      cid ∈ set) ↔ asks config ⟨platform, device.configKey, app, device.layout⟩ osMouseHookAvailable cid = true := by
  generalize hc : (⟨platform, device.configKey, app, device.layout⟩ : Context) = c
  simp only [planForDevice, CaptureSpec.divertSets, hc, List.mem_cons, List.not_mem_nil, or_false, exists_eq_or_imp,
    exists_eq_left, mem_cids, mem_divertButtons, mem_divertGestureButtons, mem_divertGestureSources]
  rw [asks_iff]
  constructor
  · rintro (⟨b, htable, _, _, hasks⟩ | ⟨b, hgesture⟩ | ⟨b, hsource, hmap⟩ | ⟨b, hwheel⟩)
    · rcases htable with hs | ⟨hs, _⟩
      · exact .inl ⟨b, hs, hasks⟩
      · exact .inr (.inl ⟨b, hs, .inr hasks⟩)
    · rcases hgesture with ⟨hhook, hs, hside⟩ | ⟨hmap, hd, _⟩
      · refine .inl ⟨b, hs, ?_⟩
        unfold asksButton
        rw [if_pos (gestures_of_side hside), hhook, hside]
        rfl
      · exact .inr (.inr ⟨hd, hmap⟩)
    · exact .inr (.inl ⟨b, hsource, .inl hmap⟩)
    · obtain ⟨hhook, hcapture, hs, hsupports, hheld⟩ := mem_divertWheelButtons.1 hwheel
      refine .inl ⟨b, hs, ?_⟩
      have hpress : ((config.buttonBindingsFor c).get b).any (needsPress b) = true := by
        obtain ⟨binding, hget, hbinding⟩ := Option.any_eq_true _ _ |>.1 hheld
        refine (Option.any_eq_true _ _).2 ⟨binding, hget, ?_⟩
        cases binding with
        | wheelHold click => rfl
        | _ => cases hbinding
      unfold asksButton
      rw [gestures_of_wheelHold hheld, hcapture, hpress]
      rfl
  · rintro (⟨b, hs, hasks⟩ | ⟨b, hs, hmap | hasks⟩ | ⟨hd, hmap⟩)
    · by_cases hgestures : (config.oshookGesturesFor c b).isSome = true
      · have hask := hasks
        unfold asksButton at hask
        rw [if_pos hgestures, Bool.and_eq_true] at hask
        exact .inr (.inl ⟨b, .inl ⟨hask.1, hs, hask.2⟩⟩)
      · by_cases hwheel : (cid, b) ∈ divertWheelButtons config c osMouseHookAvailable
        · exact .inr (.inr (.inr ⟨b, hwheel⟩))
        · exact .inl ⟨b, .inl hs, Bool.eq_false_iff.2 hgestures, hwheel, hasks⟩
    · exact .inr (.inr (.inl ⟨b, hs, hmap⟩))
    · by_cases hmap : (config.hidppGestureMapsFor c b).isSome = true
      · exact .inr (.inr (.inl ⟨b, hs, hmap⟩))
      · have hgestures : (config.oshookGesturesFor c b).isSome = false := by
          refine Bool.eq_false_iff.2 fun h => ?_
          have hhook := hook_of_gestures h
          rw [(source_of_source hs).2.1] at hhook
          cases hhook
        have hwheel : (cid, b) ∉ divertWheelButtons config c osMouseHookAvailable := fun h =>
          absurd (source_of_source hs).1 (Bool.eq_false_iff.1 (not_source_of_standard (mem_divertWheelButtons.1 h).2.2.1))
        exact .inl ⟨b, .inr ⟨hs, Bool.eq_false_iff.2 hmap⟩, hgestures, hwheel, hasks⟩
    · exact .inr (.inl ⟨.dpiToggle, .inr ⟨hmap, hd, rfl⟩⟩)

end

/-! ## What is published -/

namespace Orchestrator

variable (o : Orchestrator)

/-- Every divert set that is published, with its route: the arms of the plans, and the keyboard controls. -/
def divertSets : List (DeviceRoute × List UInt16) :=
  (o.capturePublication.plans.flatMap fun plan =>
    plan.target.spec.divertSets.map fun set => (plan.target.route, set)) ++
  o.keyboardSpecsFor.map fun spec => (spec.route, spec.wanted.keys)

/-- No control of a route is named by two of the divert sets. -/
def OneOwner : Prop := o.divertSets.Pairwise fun a b => a.1 = b.1 → List.Disjoint a.2 b.2

/-- A device is captured on a route: it is online and identified there, and enabled. -/
def Captured (dev : AgentDevice) (route : DeviceRoute) : Prop :=
  (∃ physicalKey, dev.captureIdentity = some (physicalKey, route)) ∧ o.config.deviceEnabled dev.configKey = true

/-- The bindings of a device ask for a control. -/
def Asks (dev : AgentDevice) (cid : UInt16) : Prop :=
  asks o.config ⟨o.platform, dev.configKey, (o.planContext dev).1, GamingLayout.forModelKey dev.modelKey⟩
    o.osMouseHookAvailable cid = true

/-- Two devices are captured on one route, and both ask for a control that the keyboard of the route does not take. -/
def Clash (a b : AgentDevice) : Prop :=
  ∃ route, o.Captured a route ∧ o.Captured b route ∧ ∃ cid, o.Asks a cid ∧ o.Asks b cid ∧ ¬o.KeyboardTakes route cid

variable {o}

/-- Every set loses what the keyboard takes, and nothing else. -/
theorem divertSets_release (plan : DeviceCapturePlan) : ∃ kept : UInt16 → Bool,
    (∀ cid, kept cid = true ↔ ¬o.KeyboardTakes plan.target.route cid) ∧
    (release o.keyboardSpecsFor plan).target.route = plan.target.route ∧
    (release o.keyboardSpecsFor plan).target.spec.divertSets = plan.target.spec.divertSets.map (List.filter kept) := by
  unfold release
  cases hfind : o.keyboardSpecsFor.find? fun keyboard => keyboard.route = plan.target.route with
  | some spec =>
    have hroute : spec.route = plan.target.route := by simpa using List.find?_some hfind
    refine ⟨fun cid => !spec.wanted.contains cid, fun cid => ?_, rfl, ?_⟩
    · rw [← hroute, ← mem_spec_wanted (List.mem_of_find?_eq_some hfind), Bool.not_eq_true', ← Bool.not_eq_true]
      exact not_congr Std.ExtTreeMap.mem_iff_contains.symm
    · simp [DeviceCapturePlan.releaseControls, CaptureSpec.divertSets, List.filter_map, Function.comp_def]
  | none =>
    refine ⟨fun _ => true, fun cid => iff_of_true rfl fun htakes => ?_, rfl, ?_⟩
    · obtain ⟨spec, hspec, hroute⟩ := exists_spec htakes
      exact List.find?_eq_none.1 hfind spec hspec (decide_eq_true hroute)
    · refine ((List.map_congr_left fun set _ => ?_).trans (List.map_id _)).symm
      exact List.filter_eq_self.2 fun _ _ => rfl

theorem devicePlan_eq_some {dev : AgentDevice} {plan : DeviceCapturePlan} :
    o.devicePlan o.keyboardSpecsFor dev = some plan ↔
      ∃ physicalKey route, dev.captureIdentity = some (physicalKey, route) ∧
        o.config.deviceEnabled dev.configKey = true ∧
        plan = release o.keyboardSpecsFor (o.plan dev physicalKey route) := by
  unfold devicePlan
  constructor
  · intro h
    obtain ⟨⟨physicalKey, route⟩, hidentity, h⟩ := Option.bind_eq_some_iff.1 h
    dsimp only at h
    split at h
    · rename_i henabled
      exact ⟨physicalKey, route, hidentity, henabled, (Option.some.inj h).symm⟩
    · cases h
  · rintro ⟨physicalKey, route, hidentity, henabled, rfl⟩
    rw [hidentity]
    exact if_pos henabled

/-- The sets of a published plan are apart, and name what its device asks for and the keyboard does not take. -/
theorem devicePlan_sets {dev : AgentDevice} {plan : DeviceCapturePlan}
    (h : o.devicePlan o.keyboardSpecsFor dev = some plan) :
    o.Captured dev plan.target.route ∧ plan.target.spec.divertSets.Pairwise List.Disjoint ∧
      ∀ cid, (∃ set ∈ plan.target.spec.divertSets, cid ∈ set) ↔
        o.Asks dev cid ∧ ¬o.KeyboardTakes plan.target.route cid := by
  obtain ⟨physicalKey, route, hidentity, henabled, rfl⟩ := devicePlan_eq_some.1 h
  obtain ⟨kept, hkept, hroute, hsets⟩ := divertSets_release (o := o) (o.plan dev physicalKey route)
  have hplain : (o.plan dev physicalKey route).target.spec.divertSets.Pairwise List.Disjoint :=
    pairwise_divertSets o.platform ⟨physicalKey, dev.configKey, route, GamingLayout.forModelKey dev.modelKey⟩
      (o.planContext dev).1 ((o.captureRouteGenerations route).getD 0)
  rw [hroute, hsets]
  refine ⟨⟨⟨physicalKey, hidentity⟩, henabled⟩, ?_, fun cid => ?_⟩
  · refine List.pairwise_map.2 (hplain.imp fun hd cid ha hb => ?_)
    exact hd (List.mem_of_mem_filter ha) (List.mem_of_mem_filter hb)
  · have hnames : (∃ set ∈ (o.plan dev physicalKey route).target.spec.divertSets, cid ∈ set) ↔ o.Asks dev cid :=
      mem_divertSets o.platform ⟨physicalKey, dev.configKey, route, GamingLayout.forModelKey dev.modelKey⟩
        (o.planContext dev).1 ((o.captureRouteGenerations route).getD 0) cid
    rw [← hnames, ← hkept]
    constructor
    · rintro ⟨_, hset, hcid⟩
      obtain ⟨set, hin, rfl⟩ := List.mem_map.1 hset
      exact ⟨⟨set, hin, (List.mem_filter.1 hcid).1⟩, (List.mem_filter.1 hcid).2⟩
    · rintro ⟨⟨set, hin, hcid⟩, hk⟩
      exact ⟨_, List.mem_map_of_mem hin, List.mem_filter.2 ⟨hcid, hk⟩⟩

/-- Two plans are apart unless their devices clash. -/
theorem apart_iff (a b : AgentDevice) :
    (∀ pa, o.devicePlan o.keyboardSpecsFor a = some pa → ∀ pb, o.devicePlan o.keyboardSpecsFor b = some pb →
      ∀ x ∈ pa.target.spec.divertSets.map (fun set => (pa.target.route, set)),
        ∀ y ∈ pb.target.spec.divertSets.map (fun set => (pb.target.route, set)), x.1 = y.1 → List.Disjoint x.2 y.2) ↔
      ¬o.Clash a b := by
  constructor
  · rintro h ⟨route, ⟨⟨ka, ha⟩, hea⟩, ⟨⟨kb, hb⟩, heb⟩, cid, hasks, hbsks, htakes⟩
    have hpa := devicePlan_eq_some.2 ⟨ka, route, ha, hea, rfl⟩
    have hpb := devicePlan_eq_some.2 ⟨kb, route, hb, heb, rfl⟩
    have hra := (divertSets_release (o := o) (o.plan a ka route)).choose_spec.2.1
    have hrb := (divertSets_release (o := o) (o.plan b kb route)).choose_spec.2.1
    obtain ⟨sa, hsa, hca⟩ := ((devicePlan_sets hpa).2.2 cid).2 ⟨hasks, hra.symm ▸ htakes⟩
    obtain ⟨sb, hsb, hcb⟩ := ((devicePlan_sets hpb).2.2 cid).2 ⟨hbsks, hrb.symm ▸ htakes⟩
    exact h _ hpa _ hpb _ (List.mem_map_of_mem hsa) _ (List.mem_map_of_mem hsb) (hra.trans hrb.symm) hca hcb
  · intro h pa hpa pb hpb x hx y hy hroute cid hcx hcy
    obtain ⟨sa, hsa, rfl⟩ := List.mem_map.1 hx
    obtain ⟨sb, hsb, rfl⟩ := List.mem_map.1 hy
    obtain ⟨hca, _, hna⟩ := devicePlan_sets hpa
    obtain ⟨hcb, _, hnb⟩ := devicePlan_sets hpb
    obtain ⟨hasks, htakes⟩ := (hna cid).1 ⟨sa, hsa, hcx⟩
    have hroute : pa.target.route = pb.target.route := hroute
    exact h ⟨pa.target.route, hca, hroute ▸ hcb, cid, hasks, ((hnb cid).1 ⟨sb, hsb, hcy⟩).1, htakes⟩

/-- **Every diverted control has one owner, unless two captured devices of one route ask for one control.** -/
theorem one_owner_iff (o : Orchestrator) : o.OneOwner ↔ o.devices.Pairwise fun a b => ¬o.Clash a b := by
  have hkeyboards : (o.keyboardSpecsFor.map fun spec => (spec.route, spec.wanted.keys)).Pairwise
      fun a b => a.1 = b.1 → List.Disjoint a.2 b.2 := by
    have hnd := nodup_keyboardSpecsFor (o := o)
    refine List.pairwise_map.2 ((List.pairwise_map.1 hnd).imp fun hne heq => absurd heq hne)
  have hwithin : ∀ plan ∈ o.capturePublication.plans,
      (plan.target.spec.divertSets.map fun set => (plan.target.route, set)).Pairwise
        fun a b => a.1 = b.1 → List.Disjoint a.2 b.2 := by
    intro plan hplan
    obtain ⟨dev, _, hdev⟩ := List.mem_filterMap.1 hplan
    refine List.pairwise_map.2 ((devicePlan_sets hdev).2.1.imp ?_)
    intro a b hd _
    exact hd
  have hcross : ∀ a ∈ o.capturePublication.plans.flatMap (fun plan =>
        plan.target.spec.divertSets.map fun set => (plan.target.route, set)),
      ∀ b ∈ o.keyboardSpecsFor.map (fun spec => (spec.route, spec.wanted.keys)),
        a.1 = b.1 → List.Disjoint a.2 b.2 := by
    intro a ha b hb hroute cid hca hcb
    obtain ⟨plan, hplan, ha⟩ := List.mem_flatMap.1 ha
    obtain ⟨set, hset, rfl⟩ := List.mem_map.1 ha
    obtain ⟨spec, hspec, rfl⟩ := List.mem_map.1 hb
    obtain ⟨dev, _, hdev⟩ := List.mem_filterMap.1 hplan
    have hroute : plan.target.route = spec.route := hroute
    refine (((devicePlan_sets hdev).2.2 cid).1 ⟨set, hset, hca⟩).2 ?_
    rw [hroute, ← mem_spec_wanted hspec]
    exact Std.ExtTreeMap.mem_keys.1 hcb
  unfold OneOwner divertSets
  rw [List.pairwise_append, List.pairwise_flatMap]
  have hplans : o.capturePublication.plans.Pairwise (fun pa pb =>
      ∀ x ∈ pa.target.spec.divertSets.map (fun set => (pa.target.route, set)),
        ∀ y ∈ pb.target.spec.divertSets.map (fun set => (pb.target.route, set)), x.1 = y.1 → List.Disjoint x.2 y.2) ↔
      o.devices.Pairwise fun a b => ¬o.Clash a b := by
    unfold capturePublication
    rw [List.pairwise_filterMap]
    exact List.Pairwise.iff apart_iff
  rw [hplans]
  exact ⟨fun h => h.1.2, fun h => ⟨⟨hwithin, h⟩, hkeyboards, hcross⟩⟩

/-! ## Two wired mice of one model -/

def sampleMomentum : MomentumScrolling := ⟨false, 60, .smooth, 8000, 800, 135⟩

/-- A configuration in which no device has an entry. -/
def freshConfig : Config where
  appSettings := ⟨true, defaultSensitivity, sampleMomentum, .focused⟩
  devices _ := none

def wiredMouse (unit : UInt32) : AgentDevice where
  configKey := s!"unit:{Core.hexUnit (Flow.toBeBytes unit)}"
  modelKey := "0c08a"
  route := some (.direct 0x046d 0xc08a)
  slot := 0xff
  serial := none
  unitId := Flow.toBeBytes unit
  capabilities := some { buttons := true, pointer := true }
  kind := .mouse
  lightCapabilities := none
  online := true

def twinMice : Orchestrator where
  platform := .linux
  config := freshConfig
  devices := [wiredMouse 1, wiredMouse 2]
  current := 0
  currentApp := none
  pointerContext := ⟨none, .unavailable⟩
  captureRouteGenerations _ := none
  keypadPages _ := none
  osMouseHookAvailable := true

/-- A haptic panel is diverted by default, so that both sessions name it on the one route. -/
theorem twin_mice_share : ¬twinMice.OneOwner := by
  have hsets : twinMice.divertSets =
      [[0x01a0], [], [0x00c3, 0x00d0], [], [0x01a0], [], [0x00c3, 0x00d0], []].map
        fun set => (.direct 0x046d 0xc08a, set) := by
    decide +kernel
  intro h
  rw [OneOwner, hsets, List.pairwise_map] at h
  have hfirst := (List.pairwise_cons.1 h).1 [0x01a0] (by decide) rfl
  exact hfirst List.mem_cons_self List.mem_cons_self

end Orchestrator

end Agent
end OpenLogi
