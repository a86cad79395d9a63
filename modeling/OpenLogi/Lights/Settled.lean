import OpenLogi.Lights.StandIn
/-!
# Settled — once every write has settled

A stand-in is the newest change of its control that still stands in every state of a run exactly when no write that
fails puts back a change that no longer stands, and none that succeeds leaves one.  What stands and is not kept is held
by a write in flight, so that with no write in flight the two are the same.
-/
namespace OpenLogi
namespace Lights

open Hid Lib

/-- What a write in flight holds. -/
def Sys.holds (s : Sys) (w : Writing) : Option TakenLightChange := w.claim.bind s.orch.lightWrites

/-- The writes in flight and their claims are told apart, and a write holds at most its own control of its own light. -/
structure Fit (s : Sys) : Prop where
  fresh : ∀ w ∈ s.writing, w.id < s.started
  claimed : ∀ w ∈ s.writing, ∀ claim ∈ w.claim, claim < s.orch.nextLightWrite
  apart : ∀ w ∈ s.writing, ∀ w' ∈ s.writing, ∀ claim ∈ w.claim, claim ∈ w'.claim → w.id = w'.id
  same : ∀ w ∈ s.writing, ∀ w' ∈ s.writing, w.id = w'.id → w = w'
  own : ∀ w ∈ s.writing, ∀ taken ∈ s.holds w,
    w.key = some taken.key ∧ ∀ c, c ≠ w.control → taken.changed.get c = none
  began : ∀ id key c, .began id key c ∈ s.log →
    id < s.started ∧ ∀ w ∈ s.writing, w.id = id → w.key = key ∧ w.control = c
  succeeded : ∀ id, .succeeded id ∈ s.log → id < s.started

/-- A change that stands is kept, or held by a write that began after it. -/
def Held (s : Sys) : Prop :=
  ∀ key c v, standing key c s.log = some v → s.orch.standIn key c = some v ∨
    ∃ w ∈ s.writing, ∃ taken ∈ s.holds w,
      taken.key = key ∧ taken.changed.get c = some v ∧ w.id ∈ writesSince key c s.log

/-- A stand-in is the newest change that still stands. -/
def NoneOutdated (s : Sys) : Prop :=
  ∀ key c v, s.orch.standIn key c = some v → standing key c s.log = some v

/-- With no write in flight the stand-ins are exactly the changes that stand. -/
def Settled (s : Sys) : Prop :=
  s.writing = [] → ∀ key c, s.orch.standIn key c = standing key c s.log

/-- Nothing was changed on a light yet, and no write is in flight. -/
structure Start (s : Sys) : Prop where
  unchanged : ∀ key, s.orch.lightsChangedOnLight key = none
  idle : s.writing = []
  log : s.log = []

/-- The condition at a settling write: one that fails puts back only a change that still stands, and one that succeeds
finds no stand-in of its control older than itself. -/
def Timely (s : Sys) : Event → Prop
  | .settle id written => ∀ w ∈ s.writing, w.id = id →
    if written then ∀ key ∈ w.key, (s.orch.standIn key w.control).isSome → w.id ∉ writesSince key w.control s.log
    else ∀ taken ∈ s.holds w, ∀ c, (taken.changed.get c).isSome → s.orch.standIn taken.key c = none →
      standing taken.key c s.log = taken.changed.get c
  | _ => True

/-! ### What a step does to the writes in flight -/

/-- A write that starts takes a claim of its own, or none. -/
theorem lightWriting_claim (o : Orchestrator) (route : DeviceRoute) (command : LightCommand) :
    ((o.lightWriting route command).1 = none ∧
        (o.lightWriting route command).2.lightWrites = o.lightWrites ∧
        (o.lightWriting route command).2.nextLightWrite = o.nextLightWrite) ∨
      ∃ taken : TakenLightChange, o.onlineLightKey route = some taken.key ∧
        (∀ c, c ≠ command.control → taken.changed.get c = none) ∧
        (o.lightWriting route command).1 = some o.nextLightWrite ∧
        (o.lightWriting route command).2.lightWrites =
          Function.update o.lightWrites o.nextLightWrite (some taken) ∧
        (o.lightWriting route command).2.nextLightWrite = o.nextLightWrite + 1 := by
  cases hk : o.onlineLightKey route with
  | none =>
    rw [o.lightWriting_offline hk command]
    exact .inl ⟨rfl, rfl, rfl⟩
  | some key =>
    rcases (o.lightWriting_spec hk command).2 with ⟨-, h⟩ | ⟨taken, rfl, hget, h⟩
    · exact .inl h
    · exact .inr ⟨taken, rfl, fun c hc => by rw [hget, if_neg hc], h⟩

/-- What settles a claim: its row is gone, and no other is touched. -/
theorem lightWrites_settle (o : Orchestrator) (claim : Option Nat) (written : Bool) (other : Nat) :
    (o.settle claim written).lightWrites other = (if claim = some other then none else o.lightWrites other) ∧
      (o.settle claim written).nextLightWrite = o.nextLightWrite := by
  cases claim with
  | none => exact ⟨rfl, rfl⟩
  | some claim =>
    have hupd : Function.update o.lightWrites claim none other =
        if some claim = some other then none else o.lightWrites other := by
      by_cases h : claim = other
      · rw [h, Function.update_self, if_pos rfl]
      · rw [Function.update_of_ne (Ne.symm h), if_neg (fun hc => h (Option.some.inj hc))]
    cases written with
    | true => exact ⟨hupd, rfl⟩
    | false =>
      simp only [Orchestrator.settle, Bool.false_eq_true, if_false]
      cases ht : o.lightWrites claim with
      | none =>
        simp only [Orchestrator.lightWriteFailed, ht]
        refine ⟨?_, trivial⟩
        split
        · rename_i h
          rw [← Option.some.inj h, ht]
        · rfl
      | some taken =>
        obtain ⟨-, hw, hn⟩ := o.lightWriteFailed_spec ht
        rw [hw, hn]
        exact ⟨hupd, rfl⟩

variable {s s' : Sys} {id : Nat} {w : Writing}

theorem holds_eq (h : s'.orch.lightWrites = s.orch.lightWrites) (w : Writing) :
    s'.holds w = s.holds w := by
  rw [Sys.holds, Sys.holds, h]

theorem find_writing (h : s.writing.find? (fun w => w.id == id) = some w) :
    w ∈ s.writing ∧ w.id = id :=
  ⟨List.mem_of_find?_eq_some h, by simpa using List.find?_some h⟩

theorem mem_unsettled :
    w ∈ s.writing.filter (fun w => w.id != id) ↔ w ∈ s.writing ∧ w.id ≠ id := by
  rw [List.mem_filter, bne_iff_ne]

/-- A write still in flight holds what it held when another settles. -/
theorem holds_settle (h : Fit s) {w' : Writing} (hw : w ∈ s.writing) (hw' : w' ∈ s.writing) (hne : w'.id ≠ w.id)
    (written : Bool) (log : List Fact) (writing : List Writing) :
    Sys.holds ⟨s.orch.settle w.claim written, writing, s.started, log⟩ w' = s.holds w' := by
  unfold Sys.holds
  cases hc : w'.claim with
  | none => rfl
  | some claim =>
    simp only [Option.bind_some]
    rw [(lightWrites_settle s.orch w.claim written claim).1, if_neg]
    exact fun hwc => hne (h.apart w' hw' w hw claim hc hwc)

/-- A write in flight holds what it held when another begins. -/
theorem holds_write (h : Fit s) (route : DeviceRoute) (command : LightCommand) (hw : w ∈ s.writing)
    (writing : List Writing) (started : Nat) (log : List Fact) :
    Sys.holds ⟨(s.orch.lightWriting route command).2, writing, started, log⟩ w = s.holds w := by
  unfold Sys.holds
  cases hc : w.claim with
  | none => rfl
  | some claim =>
    simp only [Option.bind_some]
    rcases lightWriting_claim s.orch route command with ⟨-, hl, -⟩ | ⟨taken, -, -, -, hl, -⟩
    · rw [hl]
    · rw [hl, Function.update_of_ne (Nat.ne_of_lt (h.claimed w hw claim hc))]

theorem Fit.announcement {route : DeviceRoute} {change : LightChange} (h : Fit s)
    (hs : step s (.announcement route change) = some s') : Fit s' := by
  obtain ⟨hw, hn⟩ := s.orch.lightWrites_lightChanged route change
  have hlog : ∀ f ∈ s'.log, (∃ key ch, f = .announced key ch) ∨ f ∈ s.log := by
    cases hs
    intro f hf
    simp only at hf
    split at hf
    · exact .inr hf
    · rcases List.mem_cons.1 hf with rfl | hf
      · exact .inl ⟨_, _, rfl⟩
      · exact .inr hf
  cases hs
  refine ⟨h.fresh, fun w hmem claim hc => ?_, h.apart, h.same, fun w hmem taken ht => ?_, fun id key c hb => ?_,
    fun id hid => ?_⟩
  · simp only [hn]
    exact h.claimed w hmem claim hc
  · rw [holds_eq hw] at ht
    exact h.own w hmem taken ht
  · obtain ⟨_, _, hf⟩ | hf := hlog _ hb
    · cases hf
    · exact h.began id key c hf
  · obtain ⟨_, _, hf⟩ | hf := hlog _ hid
    · cases hf
    · exact h.succeeded id hf

theorem Fit.write {route : DeviceRoute} {command : LightCommand} (h : Fit s)
    (hs : step s (.write route command) = some s') : Fit s' := by
  have hclaim := lightWriting_claim s.orch route command
  have hold : ∀ w ∈ s.writing, Sys.holds ⟨(s.orch.lightWriting route command).2, [], 0, []⟩ w = s.holds w :=
    fun w hw => holds_write h route command hw [] 0 []
  cases hs
  generalize s.orch.lightWriting route command = r at hclaim hold
  have hnext : s.orch.nextLightWrite ≤ r.2.nextLightWrite := by
    rcases hclaim with ⟨-, -, hn⟩ | ⟨_, -, -, -, -, hn⟩ <;> omega
  have hnew : ∀ claim ∈ r.1, claim = s.orch.nextLightWrite ∧ claim < r.2.nextLightWrite := by
    intro claim hc
    rcases hclaim with ⟨hn, -⟩ | ⟨_, -, -, hn, -, hnx⟩
    · rw [hn] at hc
      cases hc
    · rw [hn] at hc
      cases hc
      exact ⟨rfl, by omega⟩
  constructor
  · intro w hw
    rcases List.mem_cons.1 hw with rfl | hw
    · exact Nat.lt_succ_self _
    · exact Nat.lt_succ_of_lt (h.fresh w hw)
  · intro w hw claim hc
    rcases List.mem_cons.1 hw with rfl | hw
    · exact (hnew claim hc).2
    · exact Nat.lt_of_lt_of_le (h.claimed w hw claim hc) hnext
  · intro w hw w' hw' claim hc hc'
    rcases List.mem_cons.1 hw with rfl | hw <;> rcases List.mem_cons.1 hw' with rfl | hw'
    · rfl
    · exact absurd ((hnew claim hc).1) (Nat.ne_of_lt (h.claimed w' hw' claim hc'))
    · exact absurd ((hnew claim hc').1) (Nat.ne_of_lt (h.claimed w hw claim hc))
    · exact h.apart w hw w' hw' claim hc hc'
  · intro w hw w' hw' hid
    rcases List.mem_cons.1 hw with rfl | hw <;> rcases List.mem_cons.1 hw' with rfl | hw'
    · rfl
    · exact absurd hid.symm (Nat.ne_of_lt (h.fresh w' hw'))
    · exact absurd hid (Nat.ne_of_lt (h.fresh w hw))
    · exact h.same w hw w' hw' hid
  · intro w hw taken ht
    rcases List.mem_cons.1 hw with rfl | hw
    · rcases hclaim with ⟨hn, -⟩ | ⟨t, hkey, hown, hn, hl, -⟩
      · simp only [Sys.holds, hn, Option.bind_none] at ht
        cases ht
      · simp only [Sys.holds, hn, hl, Option.bind_some, Function.update_self] at ht
        cases ht
        exact ⟨hkey, hown⟩
    · exact h.own w hw taken ((hold w hw).symm.trans ht)
  · intro id key c hb
    rcases List.mem_cons.1 hb with hb | hb
    · cases hb
      refine ⟨Nat.lt_succ_self _, fun w hw hid => ?_⟩
      rcases List.mem_cons.1 hw with rfl | hw
      · exact ⟨rfl, rfl⟩
      · exact absurd hid (Nat.ne_of_lt (h.fresh w hw))
    · obtain ⟨hlt, heq⟩ := h.began id key c hb
      refine ⟨Nat.lt_succ_of_lt hlt, fun w hw hid => ?_⟩
      rcases List.mem_cons.1 hw with rfl | hw
      · exact absurd hid.symm (Nat.ne_of_lt hlt)
      · exact heq w hw hid
  · intro id hid
    rcases List.mem_cons.1 hid with hid | hid
    · cases hid
    · exact Nat.lt_succ_of_lt (h.succeeded id hid)

theorem Fit.settle {written : Bool} (h : Fit s) (hs : step s (.settle id written) = some s') : Fit s' := by
  obtain ⟨w, hfind, rfl⟩ := Option.map_eq_some_iff.1 hs
  obtain ⟨hw, rfl⟩ := find_writing hfind
  have hlog : ∀ f ∈ (if written then .succeeded w.id :: s.log else s.log), f = .succeeded w.id ∨ f ∈ s.log := by
    intro f hf
    split at hf
    · exact List.mem_cons.1 hf
    · exact .inr hf
  constructor
  · exact fun w' hw' => h.fresh w' (mem_unsettled.1 hw').1
  · intro w' hw' claim hc
    rw [(lightWrites_settle s.orch w.claim written claim).2]
    exact h.claimed w' (mem_unsettled.1 hw').1 claim hc
  · exact fun a ha b hb => h.apart a (mem_unsettled.1 ha).1 b (mem_unsettled.1 hb).1
  · exact fun a ha b hb => h.same a (mem_unsettled.1 ha).1 b (mem_unsettled.1 hb).1
  · intro w' hw' taken ht
    obtain ⟨hmem, hne⟩ := mem_unsettled.1 hw'
    rw [holds_settle h hw hmem hne] at ht
    exact h.own w' hmem taken ht
  · intro id key c hb
    rcases hlog _ hb with hf | hf
    · cases hf
    · obtain ⟨hlt, heq⟩ := h.began id key c hf
      exact ⟨hlt, fun w' hw' => heq w' (mem_unsettled.1 hw').1⟩
  · intro id hid
    rcases hlog _ hid with hf | hf
    · cases hf
      exact h.fresh w hw
    · exact h.succeeded id hf

theorem Fit.reload {config : LightConfig} {source : ConfigSource} (h : Fit s)
    (hs : step s (.reload config source) = some s') : Fit s' := by
  cases hs
  refine ⟨h.fresh, h.claimed, h.apart, h.same, fun w hw left hl => ?_, fun id key c hb => ?_, fun id hid => ?_⟩
  · obtain ⟨claim, hc, hlw⟩ := Option.bind_eq_some_iff.1 hl
    obtain ⟨taken, ht, hkey, hget⟩ := s.orch.of_lightWrites_replaceConfigFrom hlw
    obtain ⟨hk, hown⟩ := h.own w hw taken (Option.bind_eq_some_iff.2 ⟨claim, hc, ht⟩)
    exact ⟨hk.trans (congrArg some hkey.symm), fun c hne => hget c (hown c hne)⟩
  · rcases List.mem_cons.1 hb with hb | hb
    · cases hb
    · exact h.began id key c hb
  · rcases List.mem_cons.1 hid with hid | hid
    · cases hid
    · exact h.succeeded id hid

theorem fit_step {e : Event} (h : Fit s) (hs : step s e = some s') : Fit s' := by
  cases e with
  | inventory devices =>
    cases hs
    exact ⟨h.fresh, h.claimed, h.apart, h.same, h.own, h.began, h.succeeded⟩
  | announcement route change => exact h.announcement hs
  | write route command => exact h.write hs
  | settle id written => exact h.settle hs
  | reload config source => exact h.reload hs

/-! ### What a step does to what stands -/

theorem announcement_step {route : DeviceRoute} {change : LightChange} (hh : Held s) (hn : NoneOutdated s)
    (hs : step s (.announcement route change) = some s') : Held s' ∧ NoneOutdated s' := by
  obtain ⟨hw, -⟩ := s.orch.lightWrites_lightChanged route change
  have hin := s.orch.standIn_lightChanged route change
  simp only [step] at hs
  cases hs
  cases hk : s.orch.onlineLightKey route with
  | none =>
    simp only [hk, reduceCtorEq, if_false] at hin ⊢
    refine ⟨fun key c v hv => ?_, fun key c v hv => hn key c v ((hin key c).symm.trans hv)⟩
    rcases hh key c v hv with h | ⟨w, hmem, taken, ht, h⟩
    · exact .inl ((hin key c).trans h)
    · exact .inr ⟨w, hmem, taken, (holds_eq hw w).trans ht, h⟩
  | some k =>
    dsimp only
    generalize hf : Fact.announced k (change.announced ((s.orch.config k).any (·.autoCamera))) = f
    have hor : ∀ key c, (s.orch.lightChanged route change).standIn key c =
        (f.changeOf key c).or (s.orch.standIn key c) := by
      intro key c
      rw [hin key c, hk, ← hf]
      by_cases h : k = key
      · subst h
        simp only [Fact.changeOf, if_true]
      · simp only [Fact.changeOf, if_neg h, if_neg (fun he : some k = some key => h (Option.some.inj he)),
          Option.none_or]
    have hsame : ∀ key c, f.changeOf key c = none → standing key c (f :: s.log) = standing key c s.log :=
      fun key c h => standing_neutral s.log h (fun _ => by rw [← hf]; rfl) (by rw [← hf]; rfl) (by rw [← hf]; rfl)
    constructor
    · intro key c v hv
      rw [hor]
      cases hc : f.changeOf key c with
      | some u =>
        rw [standing_cons_change s.log hc] at hv
        exact .inl hv
      | none =>
        rw [hsame key c hc] at hv
        rw [Option.none_or]
        rcases hh key c v hv with h | ⟨w, hmem, taken, ht, hkey, hget, hid⟩
        · exact .inl h
        · exact .inr ⟨w, hmem, taken, (holds_eq hw w).trans ht, hkey, hget, mem_writesSince_cons hc hid⟩
    · intro key c v hv
      rw [hor] at hv
      cases hc : f.changeOf key c with
      | some u =>
        rw [hc, Option.some_or] at hv
        exact (standing_cons_change s.log hc).trans hv
      | none =>
        rw [hc, Option.none_or] at hv
        exact (hsame key c hc).trans (hn key c v hv)

theorem write_step {route : DeviceRoute} {command : LightCommand} (hf : Fit s) (hh : Held s) (hn : NoneOutdated s)
    (hs : step s (.write route command) = some s') : Held s' ∧ NoneOutdated s' := by
  have hfresh : Fact.succeeded s.started ∉ s.log := fun h => Nat.lt_irrefl _ (hf.succeeded _ h)
  have hold := fun w hw => holds_write hf route command (w := w) hw s'.writing s'.started s'.log
  have hwriting : ∀ w ∈ s.writing, w ∈ s'.writing := by
    cases hs
    exact fun w hw => List.mem_cons_of_mem _ hw
  have hstand : ∀ key c, standing key c s'.log = standing key c s.log := by
    cases hs
    exact fun key c => standing_began _ _ hfresh
  have hsince : ∀ key c id, id ∈ writesSince key c s.log → id ∈ writesSince key c s'.log := by
    cases hs
    exact fun key c id h => mem_writesSince_cons rfl h
  have hkeep : ∀ key c v, (∃ w ∈ s.writing, ∃ taken ∈ s.holds w,
      taken.key = key ∧ taken.changed.get c = some v ∧ w.id ∈ writesSince key c s.log) →
      ∃ w ∈ s'.writing, ∃ taken ∈ s'.holds w,
        taken.key = key ∧ taken.changed.get c = some v ∧ w.id ∈ writesSince key c s'.log := by
    rintro key c v ⟨w, hw, taken, ht, hkey, hget, hid⟩
    refine ⟨w, hwriting w hw, taken, ?_, hkey, hget, hsince key c _ hid⟩
    rw [← hold w hw] at ht
    cases hs
    exact ht
  cases hk : s.orch.onlineLightKey route with
  | none =>
    have ho : s'.orch = s.orch := by
      cases hs
      exact congrArg Prod.snd (s.orch.lightWriting_offline hk command)
    refine ⟨fun key c v hv => ?_, fun key c v hv => ?_⟩
    · rw [hstand] at hv
      rw [ho]
      exact (hh key c v hv).imp_right (hkeep key c v)
    · rw [ho] at hv
      exact (hstand key c).trans (hn key c v hv)
  | some k =>
    obtain ⟨hin, hclaim⟩ := s.orch.lightWriting_spec hk command
    have hin' : ∀ key c, s'.orch.standIn key c =
        if key = k ∧ c = command.control then none else s.orch.standIn key c := by
      cases hs
      exact hin
    refine ⟨fun key c v hv => ?_, fun key c v hv => ?_⟩
    · rw [hstand] at hv
      rcases hh key c v hv with h | h
      · by_cases hkc : key = k ∧ c = command.control
        · obtain ⟨rfl, rfl⟩ := hkc
          rcases hclaim with ⟨hnone, -⟩ | ⟨taken, hkey, hget, hc, hl, -⟩
          · rw [hnone] at h
            cases h
          · refine .inr
              ⟨⟨s.started, some key, command.control, some s.orch.nextLightWrite⟩, ?_, taken, ?_, hkey, ?_, ?_⟩
            · cases hs
              rw [hk, hc]
              exact List.mem_cons_self
            · cases hs
              simp only [Sys.holds, Option.bind_some, hl, Function.update_self]
              exact Option.mem_some_self _
            · rw [hget, if_pos rfl, h]
            · cases hs
              rw [hk]
              exact writesSince_began s.started hv
        · exact .inl (by rw [hin', if_neg hkc, h])
      · exact .inr (hkeep key c v h)
    · rw [hin'] at hv
      split at hv
      · cases hv
      · exact (hstand key c).trans (hn key c v hv)

theorem standIn_settle_written (o : Orchestrator) (claim : Option Nat) (key : String) (c : LightControl) :
    (o.settle claim true).standIn key c = o.standIn key c := by
  cases claim <;> rfl

/-- A write that holds nothing leaves every stand-in when it fails. -/
theorem standIn_settle_none (h : s.holds w = none) (key : String) (c : LightControl) :
    (s.orch.settle w.claim false).standIn key c = s.orch.standIn key c := by
  unfold Sys.holds at h
  cases hc : w.claim with
  | none => rfl
  | some claim =>
    rw [hc, Option.bind_some] at h
    simp only [Orchestrator.settle, Bool.false_eq_true, if_false, Orchestrator.lightWriteFailed, h]

theorem standIn_settle_failed {taken : TakenLightChange} (h : s.holds w = some taken) (key : String)
    (c : LightControl) :
    (s.orch.settle w.claim false).standIn key c =
      if key = taken.key then (s.orch.standIn key c).or (taken.changed.get c) else s.orch.standIn key c := by
  obtain ⟨claim, hc, ht⟩ := Option.bind_eq_some_iff.1 h
  rw [hc]
  exact (s.orch.lightWriteFailed_spec ht).1 key c

theorem written_step (hf : Fit s) (hh : Held s) (hn : NoneOutdated s) (hs : step s (.settle id true) = some s') :
    Held s' ∧ (NoneOutdated s' ↔ Timely s (.settle id true)) := by
  obtain ⟨w, hfind, rfl⟩ := Option.map_eq_some_iff.1 hs
  obtain ⟨hw, rfl⟩ := find_writing hfind
  simp only [if_true]
  refine ⟨fun key c v hv => ?_, fun h => ?_, fun h key c v hv => ?_⟩
  · simp only [standing_succeeded] at hv
    split at hv
    · cases hv
    · rename_i hid
      rcases hh key c v hv with h | ⟨w', hmem, taken, ht, hkey, hget, hid'⟩
      · exact .inl ((standIn_settle_written _ _ _ _).trans h)
      · have hne : w'.id ≠ w.id := fun he => hid (he ▸ hid')
        exact .inr ⟨w', mem_unsettled.2 ⟨hmem, hne⟩, taken, (holds_settle hf hw hmem hne true _ _).trans ht, hkey, hget,
          mem_writesSince_cons rfl hid'⟩
  · intro w' hmem hid
    cases hf.same w' hmem w hw hid
    simp only [if_true]
    intro key hkey hsome hid
    obtain ⟨v, hv⟩ := Option.isSome_iff_exists.1 hsome
    have := h key w.control v ((standIn_settle_written _ _ _ _).trans hv)
    rw [standing_succeeded, if_pos hid] at this
    cases this
  · have hv' : s.orch.standIn key c = some v := (standIn_settle_written _ _ _ _).symm.trans hv
    rw [standing_succeeded, if_neg, hn key c v hv']
    intro hid
    obtain ⟨-, heq⟩ := hf.began _ _ _ (began_of_mem_writesSince hid)
    obtain ⟨hkey, rfl⟩ := heq w hw rfl
    have hw' := h w hw rfl
    simp only [if_true] at hw'
    exact hw' key hkey (by rw [hv']; rfl) hid

theorem failed_step (hf : Fit s) (hh : Held s) (hn : NoneOutdated s) (hs : step s (.settle id false) = some s') :
    Held s' ∧ (NoneOutdated s' ↔ Timely s (.settle id false)) := by
  obtain ⟨w, hfind, rfl⟩ := Option.map_eq_some_iff.1 hs
  obtain ⟨hw, rfl⟩ := find_writing hfind
  simp only [Bool.false_eq_true, if_false]
  have hkeep : ∀ w' ∈ s.writing, w'.id ≠ w.id → ∀ taken ∈ s.holds w', ∀ key c v, taken.key = key →
      taken.changed.get c = some v → w'.id ∈ writesSince key c s.log →
      ∃ w' ∈ s.writing.filter (fun x => x.id != w.id), ∃ taken ∈ Sys.holds
        ⟨s.orch.settle w.claim false, s.writing.filter (fun x => x.id != w.id), s.started, s.log⟩ w',
        taken.key = key ∧ taken.changed.get c = some v ∧ w'.id ∈ writesSince key c s.log :=
    fun w' hmem hne taken ht key c v hkey hget hid =>
      ⟨w', mem_unsettled.2 ⟨hmem, hne⟩, taken, (holds_settle hf hw hmem hne false _ _).trans ht, hkey, hget, hid⟩
  cases hold : s.holds w with
  | none =>
    have hin := standIn_settle_none hold
    refine ⟨fun key c v hv => ?_, fun _ => ?_, fun _ key c v hv => hn key c v ((hin key c).symm.trans hv)⟩
    · rcases hh key c v hv with h | ⟨w', hmem, taken, ht, hkey, hget, hid⟩
      · exact .inl ((hin key c).trans h)
      · refine .inr (hkeep w' hmem (fun he => ?_) taken ht key c v hkey hget hid)
        rw [hf.same w' hmem w hw he, hold] at ht
        cases ht
    · intro w' hmem hid
      rw [hf.same w' hmem w hw hid]
      simp only [Bool.false_eq_true, if_false, hold]
      exact fun taken ht => by cases ht
  | some taken =>
    have hin := standIn_settle_failed hold
    refine ⟨fun key c v hv => ?_, fun h => ?_, fun h key c v hv => ?_⟩
    · rcases hh key c v hv with h | ⟨w', hmem, t, ht, hkey, hget, hid⟩
      · refine .inl ((hin key c).trans ?_)
        rw [h, Option.some_or]
        split <;> rfl
      · by_cases he : w'.id = w.id
        · rw [hf.same w' hmem w hw he, hold] at ht
          cases ht
          refine .inl ((hin key c).trans ?_)
          rw [if_pos hkey.symm, hget]
          cases hu : s.orch.standIn key c with
          | none => rfl
          | some u => exact (hn key c u hu).symm.trans hv
        · exact .inr (hkeep w' hmem he t ht key c v hkey hget hid)
    · intro w' hmem hid
      rw [hf.same w' hmem w hw hid]
      simp only [Bool.false_eq_true, if_false, hold]
      intro t ht c hsome hnone
      cases ht
      obtain ⟨v, hv⟩ := Option.isSome_iff_exists.1 hsome
      rw [hv]
      refine h taken.key c v ((hin taken.key c).trans ?_)
      rw [if_pos rfl, hnone, hv, Option.none_or]
    · rw [hin] at hv
      split at hv
      · rename_i hkey
        subst hkey
        cases hu : s.orch.standIn taken.key c with
        | some u =>
          rw [hu, Option.some_or] at hv
          exact (hn _ c u hu).trans hv
        | none =>
          rw [hu, Option.none_or] at hv
          have hw' := h w hw rfl
          simp only [Bool.false_eq_true, if_false] at hw'
          exact (hw' taken hold c (by rw [hv]; rfl) hu).trans hv
      · exact hn key c v hv

theorem reload_step {config : LightConfig} {source : ConfigSource} (hh : Held s) (hn : NoneOutdated s)
    (hs : step s (.reload config source) = some s') : Held s' ∧ NoneOutdated s' := by
  cases hs
  have hin := s.orch.standIn_replaceConfigFrom config source
  constructor
  · intro key c v hv
    simp only [standing_reloaded, Option.filter_eq_some_iff, Bool.not_eq_true'] at hv
    obtain ⟨hv, hr⟩ := hv
    rcases hh key c v hv with h | ⟨w, hmem, taken, ht, rfl, hget, hid⟩
    · refine .inl ((hin key c).trans ?_)
      rw [h, Option.filter_some, hr]
      rfl
    · obtain ⟨claim, hc, hl⟩ := Option.bind_eq_some_iff.1 ht
      obtain ⟨left, hleft, hkey, hgl⟩ := s.orch.lightWrites_replaceConfigFrom hl c hget hr
      exact .inr ⟨w, hmem, left, Option.bind_eq_some_iff.2 ⟨claim, hc, hleft⟩, hkey, hgl, mem_writesSince_cons rfl hid⟩
  · intro key c v hv
    rw [hin, Option.filter_eq_some_iff] at hv
    rw [standing_reloaded, hn key c v hv.1, Option.filter_some, if_pos hv.2]

/-- **What one step does**: a change that stands stays kept or held, and no outdated one is kept exactly when a write
settles in time. -/
theorem stands_step {e : Event} (hf : Fit s) (hh : Held s) (hn : NoneOutdated s) (hs : step s e = some s') :
    Held s' ∧ (NoneOutdated s' ↔ Timely s e) := by
  cases e with
  | inventory devices =>
    cases hs
    exact ⟨hh, iff_of_true hn trivial⟩
  | announcement route change => exact (announcement_step hh hn hs).imp_right fun h => iff_of_true h trivial
  | write route command => exact (write_step hf hh hn hs).imp_right fun h => iff_of_true h trivial
  | settle id written =>
    cases written with
    | true => exact written_step hf hh hn hs
    | false => exact failed_step hf hh hn hs
  | reload config source => exact (reload_step hh hn hs).imp_right fun h => iff_of_true h trivial

theorem timely_of_refused {e : Event} (h : step s e = none) : Timely s e := by
  cases e with
  | settle id written =>
    intro w hw hid
    have hnone := List.find?_eq_none.1 (Option.map_eq_none_iff.1 h) w hw
    simp [hid] at hnone
  | _ => trivial

theorem settled_of (hh : Held s) (hn : NoneOutdated s) : Settled s := by
  intro hidle key c
  refine Option.ext fun v => ⟨hn key c v, fun h => ?_⟩
  rcases hh key c v h with h | ⟨w, hw, -⟩
  · exact h
  · rw [hidle] at hw
    cases hw

theorem fit_start (h : Start s) : Fit s := by
  have hw : ∀ w, w ∉ s.writing := by simp [h.idle]
  have hl : ∀ f, f ∉ s.log := by simp [h.log]
  exact ⟨fun w hm => absurd hm (hw w), fun w hm => absurd hm (hw w), fun w hm => absurd hm (hw w),
    fun w hm => absurd hm (hw w), fun w hm => absurd hm (hw w), fun id key c hb => absurd hb (hl _),
    fun id hid => absurd hid (hl _)⟩

theorem held_start (h : Start s) : Held s := fun key c v hv => by
  rw [h.log] at hv
  cases hv

theorem noneOutdated_start (h : Start s) : NoneOutdated s := fun key c v hv => by
  rw [Orchestrator.standIn, h.unchanged] at hv
  cases hv

/-- **No outdated stand-in is kept in any state of a run exactly when every write settles in time**, and then with no
write in flight the stand-in of a control is the newest announced change of it that still stands, and there is none
otherwise. -/
theorem stand_ins_newest {s : Sys} (h : Start s) (es : List Event) :
    (EveryState step NoneOutdated s es ↔ Along step Timely s es) ∧
      (Along step Timely s es → EveryState step Settled s es) := by
  constructor
  · exact everyState_iff_along_of_inv (fun s => Fit s ∧ Held s) NoneOutdated Timely
      (fun s e s' hi hn hs => ⟨⟨fit_step hi.1 hs, (stands_step hi.1 hi.2 hn hs).1⟩, (stands_step hi.1 hi.2 hn hs).2⟩)
      (fun s e => timely_of_refused) es s ⟨fit_start h, held_start h⟩ (noneOutdated_start h)
  · intro hG
    have hinv := everyState_of_along (I := fun s => Fit s ∧ Held s ∧ NoneOutdated s) (G := Timely)
      (fun s e s' hi hT hs => ⟨fit_step hi.1 hs, (stands_step hi.1 hi.2.1 hi.2.2 hs).1,
        (stands_step hi.1 hi.2.1 hi.2.2 hs).2.2 hT⟩) ⟨fit_start h, held_start h, noneOutdated_start h⟩ hG
    exact hinv.imp fun s hi => settled_of hi.2.1 hi.2.2

instance decidableForallControl {p : LightControl → Prop} [DecidablePred p] : Decidable (∀ c, p c) :=
  decidable_of_iff (p .power ∧ p .brightness ∧ p .temperature)
    ⟨fun h c => by cases c with
      | power => exact h.1
      | brightness => exact h.2.1
      | temperature => exact h.2.2, fun h => ⟨h _, h _, h _⟩⟩

instance decidableTimely (s : Sys) : (e : Event) → Decidable (Timely s e)
  | .inventory _ | .announcement .. | .write .. | .reload .. => isTrue trivial
  | .settle id true =>
    inferInstanceAs (Decidable (∀ w ∈ s.writing, w.id = id →
      ∀ key ∈ w.key, (s.orch.standIn key w.control).isSome → w.id ∉ writesSince key w.control s.log))
  | .settle id false =>
    inferInstanceAs (Decidable (∀ w ∈ s.writing, w.id = id →
      ∀ taken ∈ s.holds w, ∀ c, (taken.changed.get c).isSome → s.orch.standIn taken.key c = none →
        standing taken.key c s.log = taken.changed.get c))

/-! ### One light on one route -/

def glowRoute : DeviceRoute := .rawHid 0x046d 0xc900 0xff43 0x0202 "serial:glow"

def glowCapabilities : LightCapabilities where
  power := true
  brightness := some ⟨20, 250, 1, .lumens, by decide, by decide, by decide, by decide⟩
  temperature := some ⟨2700, 6500, 100, .kelvin, by decide, by decide, by decide, by decide⟩
  color := false
  zones := false

/-- The light, online and saved at 80 %, before anything is changed on it. -/
def glow : Sys where
  orch :=
    { devices := [⟨"glow", true, some glowRoute, some glowCapabilities⟩]
      config := fun key => if key = "glow" then some ⟨true, false, 80, some 4000⟩ else none
      lightStates := fun _ => none
      manualLightOverrides := fun _ => none
      lightsChangedOnLight := fun _ => none
      lightWrites := fun _ => none
      nextLightWrite := 0 }
  writing := []
  started := 0
  log := []

/-- The brightness set on the light. -/
def dimmed (native : Nat) : Event :=
  .announcement glowRoute
    ⟨⟨glowCapabilities, true, some native, some 4000, none⟩, ⟨false, true, false⟩⟩

theorem glow_start : Start glow := ⟨fun _ => rfl, rfl, rfl⟩

/-- A write that fails while a newer change stands, and one that takes that change and succeeds. -/
def glowWrites : List Event :=
  [dimmed 135, .write glowRoute (.brightnessPercent 90), dimmed 158, .settle 0 false,
    .write glowRoute (.brightnessPercent 70), .settle 1 true, .write glowRoute (.power false), .settle 2 false]

theorem stand_ins_newest_glow :
    EveryState step NoneOutdated glow glowWrites ∧ EveryState step Settled glow glowWrites := by
  have h := stand_ins_newest glow_start glowWrites
  have ht : Along step Timely glow glowWrites := by decide +kernel
  exact ⟨h.1.2 ht, h.2 ht⟩

/-- **Two writes of one control settle out of order**: the second succeeds, the first fails after it, and the change
the first took is back although the light holds what the second wrote. -/
theorem failed_write_resurrects :
    Start glow ∧ ∃ s, run step glow
        [dimmed 135, .write glowRoute (.brightnessPercent 90), .write glowRoute (.brightnessPercent 70),
          .settle 1 true, .settle 0 false] = some s ∧
      s.writing = [] ∧ s.orch.standIn "glow" .brightness = some 50 ∧ standing "glow" .brightness s.log = none :=
  ⟨glow_start, _, rfl, rfl, by decide +kernel, by decide +kernel⟩

end Lights
end OpenLogi
