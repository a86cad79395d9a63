import OpenLogi.Agent.Orchestrator
import OpenLogi.Lib.Least
/-!
# Keyboards — the keyboard session of a route

One keyboard holds the session of a route: among the candidates of the route the first of the least rank.  Its spec
wants the controls that it binds for the application in front, but for the reserved ones.
-/
namespace OpenLogi
namespace Agent

open OpenLogi.Core
open Hid (DeviceRoute)
open Lib (Map minByKey minByKey_cons_cons)
open Session (isReservedKeyboardControl)

/-! ## The controls wanted -/

theorem mem_wanted_add (set : KeyboardDivertSet) (button : ButtonId) (binding : Binding) (cid : UInt16) :
    cid ∈ (set.add button binding).wanted ↔
      cid ∈ set.wanted ∨ (isReservedKeyboardControl cid = false ∧ button = .control cid) := by
  cases button with
  | grid slot =>
    simp only [KeyboardDivertSet.add]
    split <;> simp
  | control c =>
    simp only [KeyboardDivertSet.add, ButtonId.control.injEq]
    split
    · rename_i hr
      refine ⟨.inl, fun h => h.elim id ?_⟩
      rintro ⟨hcid, rfl⟩
      rw [hcid] at hr
      cases hr
    · rename_i hr
      simp only [Std.ExtTreeMap.mem_insert, Std.LawfulEqOrd.compare_eq_iff_eq]
      constructor
      · rintro (rfl | h)
        · exact .inr ⟨Bool.eq_false_iff.2 hr, rfl⟩
        · exact .inl h
      · rintro (h | ⟨_, rfl⟩)
        · exact .inr h
        · exact .inl rfl
  | _ => simp [KeyboardDivertSet.add]

theorem mem_wanted_foldl (cid : UInt16) : ∀ (rows : List (ButtonId × Binding)) (set : KeyboardDivertSet),
    cid ∈ (rows.foldl (fun set p => set.add p.1 p.2) set).wanted ↔
      cid ∈ set.wanted ∨ (isReservedKeyboardControl cid = false ∧ ∃ p ∈ rows, p.1 = .control cid)
  | [], set => by simp
  | p :: rows, set => by
    rw [List.foldl_cons, mem_wanted_foldl cid rows, mem_wanted_add]
    simp only [List.mem_cons, exists_eq_or_imp]
    tauto

/-- **A session wants every control that is bound, but for the reserved ones.** -/
theorem mem_wanted {bindings : Map ButtonId Binding} {cid : UInt16} :
    cid ∈ (keyboardDivertSet bindings.rows).wanted ↔
      isReservedKeyboardControl cid = false ∧ (bindings.get (.control cid)).isSome = true := by
  have hget : (∃ p ∈ bindings.rows, p.1 = ButtonId.control cid) ↔ (bindings.get (.control cid)).isSome = true := by
    unfold Map.get
    rw [Option.isSome_map, Lib.Table.isSome_get?]
    rfl
  unfold keyboardDivertSet
  rw [mem_wanted_foldl, hget]
  simp

/-! ## The keyboard of a route -/

theorem find?_choose (r : DeviceRoute) (entry : KeyboardCandidate × DeviceRoute) :
    ∀ chosen : List (KeyboardCandidate × DeviceRoute), (choose entry chosen).find? (fun e => e.2 = r) =
      if entry.2 = r then
        match chosen.find? fun e => e.2 = r with
        | some taken => some (if entry.1.rank < taken.1.rank then entry else taken)
        | none => some entry
      else chosen.find? fun e => e.2 = r
  | [] => by
    by_cases hr : entry.2 = r <;> simp [choose, hr]
  | taken :: rest => by
    unfold choose
    by_cases ht : taken.2 = entry.2
    · by_cases hr : entry.2 = r
      · have hin : (if entry.1.rank < taken.1.rank then entry else taken).2 = r := by
          split
          · exact hr
          · exact ht.trans hr
        simp [ht, hr, hin]
      · have hin : (if entry.1.rank < taken.1.rank then entry else taken).2 ≠ r := by
          split
          · exact hr
          · exact fun h => hr (ht.symm.trans h)
        simp [ht, hr, hin]
    · rw [if_neg ht, List.find?_cons]
      by_cases hr : taken.2 = r
      · have he : entry.2 ≠ r := fun h => ht (hr.trans h.symm)
        simp [hr, he]
      · simp [hr, find?_choose r entry rest]

theorem find?_foldl_choose (r : DeviceRoute) : ∀ entries chosen : List (KeyboardCandidate × DeviceRoute),
    (entries.foldl (fun chosen entry => choose entry chosen) chosen).find? (fun e => e.2 = r) =
      minByKey (fun e => e.1.rank) ((chosen.find? fun e => e.2 = r).toList ++ entries.filter fun e => e.2 = r)
  | [], chosen => by
    cases h : chosen.find? fun e => e.2 = r <;> simp [minByKey, h]
  | entry :: entries, chosen => by
    rw [List.foldl_cons, find?_foldl_choose r entries, find?_choose]
    by_cases hr : entry.2 = r
    · rw [if_pos hr, List.filter_cons_of_pos (by simpa using hr)]
      cases chosen.find? fun e => e.2 = r with
      | none => rfl
      | some taken => exact (minByKey_cons_cons (fun e => e.1.rank) taken entry _).symm
    · rw [if_neg hr, List.filter_cons_of_neg (by simpa using hr)]

theorem routes_choose (entry : KeyboardCandidate × DeviceRoute) : ∀ chosen : List (KeyboardCandidate × DeviceRoute),
    (choose entry chosen).map Prod.snd =
      if entry.2 ∈ chosen.map Prod.snd then chosen.map Prod.snd else chosen.map Prod.snd ++ [entry.2]
  | [] => rfl
  | taken :: rest => by
    unfold choose
    by_cases ht : taken.2 = entry.2
    · have hin : (if entry.1.rank < taken.1.rank then entry else taken).2 = taken.2 := by
        split
        · exact ht.symm
        · rfl
      simp [ht, hin]
    · rw [if_neg ht, List.map_cons, routes_choose entry rest]
      by_cases hin : entry.2 ∈ rest.map Prod.snd
      · simp [hin]
      · simp [hin, Ne.symm ht]

theorem nodup_foldl_choose : ∀ entries chosen : List (KeyboardCandidate × DeviceRoute), (chosen.map Prod.snd).Nodup →
    ((entries.foldl (fun chosen entry => choose entry chosen) chosen).map Prod.snd).Nodup
  | [], _, h => h
  | entry :: entries, chosen, h => by
    refine nodup_foldl_choose entries _ ?_
    rw [routes_choose]
    split
    · exact h
    · rename_i hin
      exact List.nodup_append.2 ⟨h, List.nodup_singleton _, fun a ha b hb hab =>
        hin ((List.mem_singleton.1 hb) ▸ hab ▸ ha)⟩

namespace Orchestrator

variable (o : Orchestrator)

/-- The keyboard that holds the session of a route. -/
def keyboardOf (route : DeviceRoute) : Option KeyboardCandidate :=
  (minByKey (fun e => e.1.rank) ((o.devices.filterMap o.keyboardCandidate).filter fun e => e.2 = route)).map Prod.fst

/-- Whether the keyboard of a route takes a control: it binds it for the application in front. -/
def KeyboardTakes (route : DeviceRoute) (cid : UInt16) : Prop :=
  isReservedKeyboardControl cid = false ∧ ∃ k, o.keyboardOf route = some k ∧
    ((o.foregroundKeyBindings k.dev.configKey).get (.control cid)).isSome = true

variable {o}

theorem find?_chosenKeyboards (route : DeviceRoute) :
    (o.chosenKeyboards.find? fun e => e.2 = route).map Prod.fst = o.keyboardOf route :=
  congrArg (Option.map Prod.fst) (find?_foldl_choose route (o.devices.filterMap o.keyboardCandidate) [])

/-- **At most one spec a route.** -/
theorem nodup_keyboardSpecsFor : (o.keyboardSpecsFor.map KeyboardSpec.route).Nodup := by
  have hroutes : o.keyboardSpecsFor.map KeyboardSpec.route = o.chosenKeyboards.map Prod.snd := by
    unfold keyboardSpecsFor
    rw [List.map_map]
    rfl
  rw [hroutes]
  exact nodup_foldl_choose _ _ List.nodup_nil

theorem divert_of_keyboardOf {route : DeviceRoute} {k : KeyboardCandidate} (h : o.keyboardOf route = some k) :
    k.divert = keyboardDivertSet (o.foregroundKeyBindings k.dev.configKey).rows := by
  unfold keyboardOf at h
  obtain ⟨⟨k', r⟩, hmin, rfl⟩ := Option.map_eq_some_iff.1 h
  have hmem := List.mem_of_mem_filter (Lib.mem_of_minByKey hmin)
  obtain ⟨dev, _, hdev⟩ := List.mem_filterMap.1 hmem
  unfold keyboardCandidate at hdev
  split at hdev
  · dsimp only at hdev
    split at hdev
    · cases hdev
    · obtain ⟨route', _, heq⟩ := Option.map_eq_some_iff.1 hdev
      cases heq
      rfl
  · cases hdev

/-- **The spec of a route wants what the keyboard of the route takes.** -/
theorem mem_spec_wanted {spec : KeyboardSpec} (h : spec ∈ o.keyboardSpecsFor) (cid : UInt16) :
    cid ∈ spec.wanted ↔ o.KeyboardTakes spec.route cid := by
  obtain ⟨⟨k, route⟩, hin, rfl⟩ := List.mem_map.1 h
  have hnd : (o.chosenKeyboards.map Prod.snd).Nodup := nodup_foldl_choose _ _ List.nodup_nil
  have hfind : o.chosenKeyboards.find? (fun e => e.2 = route) = some (k, route) := by
    cases hf : o.chosenKeyboards.find? fun e => e.2 = route with
    | none => simpa using List.find?_eq_none.1 hf _ hin
    | some e =>
      have he : e.2 = route := by simpa using List.find?_some hf
      exact congrArg some (List.inj_on_of_nodup_map hnd (List.mem_of_find?_eq_some hf) hin he)
  have hof : o.keyboardOf route = some k := by
    rw [← find?_chosenKeyboards, hfind]
    rfl
  change cid ∈ k.divert.wanted ↔ o.KeyboardTakes route cid
  rw [divert_of_keyboardOf hof, mem_wanted]
  unfold KeyboardTakes
  simp [hof]

/-- A route whose keyboard takes something has a spec. -/
theorem exists_spec {route : DeviceRoute} {cid : UInt16} (h : o.KeyboardTakes route cid) :
    ∃ spec ∈ o.keyboardSpecsFor, spec.route = route := by
  obtain ⟨_, k, hk, _⟩ := h
  rw [← find?_chosenKeyboards] at hk
  obtain ⟨e, hfind, rfl⟩ := Option.map_eq_some_iff.1 hk
  refine ⟨_, List.mem_map_of_mem (List.mem_of_find?_eq_some hfind), ?_⟩
  simpa using List.find?_some hfind

end Orchestrator

end Agent
end OpenLogi
