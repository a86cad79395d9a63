import OpenLogi.Session.Input
/-!
# Planes — sessions that keep what is held by planes

A session keeps the buttons it captures in planes, each diffed against reports of its own.  A reset either clears a
plane or leaves it; one left with a press held is stale until its next report.  The edges of such a session are
balanced exactly when every reset that finds a press held is reported and no report reaches a stale plane.
-/
namespace OpenLogi
namespace Session

open OpenLogi.Core Lib

variable {σ ε π : Type}

/-- Whether a button of a plane is held. -/
def anyHeld (level : List (ButtonId × Bool)) : Bool := level.any Prod.snd

/-- A capture session over its reports and resets. -/
structure Planes (σ ε π : Type) where
  turn : σ → ε → Turn × σ
  /-- The buttons of a plane, and whether each is held. -/
  levels : σ → π → List (ButtonId × Bool)
  stale : σ → π → Bool
  /-- Whether a reset is reported. -/
  interrupts : σ → Bool
  isReset : ε → Bool
  /-- The plane that a report is diffed against. -/
  plane : ε → Option π
  /-- Each button is fed by one control. -/
  Wired : σ → Prop
  wired_turn : ∀ s e, Wired s → Wired (turn s e).2
  apart : ∀ s, Wired s → ∀ p, ((levels s p).map Prod.fst).Nodup
  disjoint : ∀ s, Wired s → ∀ p q b, b ∈ (levels s p).map Prod.fst → b ∈ (levels s q).map Prod.fst → p = q
  report : ∀ s, Wired s → ∀ e, isReset e = false → ∀ p, plane e = some p → ∃ ss : List Source,
    Reported (turn s e).1 ss ∧ ss.map (fun x => (x.button, x.was)) = levels s p ∧
      ss.map (fun x => (x.button, x.now)) = levels (turn s e).2 p ∧ stale (turn s e).2 p = false ∧
      ∀ q, q ≠ p → levels (turn s e).2 q = levels s q ∧ stale (turn s e).2 q = stale s q
  silent : ∀ s, Wired s → ∀ e, isReset e = false → plane e = none →
    Reported (turn s e).1 [] ∧ levels (turn s e).2 = levels s ∧ stale (turn s e).2 = stale s
  reset : ∀ s e, isReset e = true →
    (turn s e).1 = ⟨true, [], if interrupts s then [.interrupted] else []⟩ ∧
      ∀ p, (levels (turn s e).2 p).map Prod.fst = (levels s p).map Prod.fst ∧
        ((∀ x ∈ levels (turn s e).2 p, x.2 = false) ∧ stale (turn s e).2 p = false ∨
          levels (turn s e).2 p = levels s p ∧ stale (turn s e).2 p = (stale s p || anyHeld (levels s p)))

namespace Planes

variable (c : Planes σ ε π)

def turns : σ → List ε → List Turn
  | _, [] => []
  | s, e :: es => (c.turn s e).1 :: turns (c.turn s e).2 es

def step (s : σ) (e : ε) : Option σ := some (c.turn s e).2

/-- A reset that finds a press held is reported, unless the press was over before; no report reaches a stale plane. -/
def Timely (s : σ) (e : ε) : Prop :=
  if c.isReset e then ∀ p, anyHeld (c.levels s p) = true → c.stale s p = true ∨ c.interrupts s = true
  else ∀ p ∈ c.plane e, c.stale s p = false

/-- The watches agree with a plane, or it is stale: its presses are over for them, and one of them is due. -/
def PlaneOk (stale : Bool) (level : List (ButtonId × Bool)) (w : ButtonId → Watch) : Prop :=
  if stale then (∀ x ∈ level, (w x.1).pressed = false) ∧ ∃ x ∈ level, x.2 = true ∧ (w x.1).due = true
  else ∀ x ∈ level, (w x.1).Tracks x.2

structure Fits (s : σ) (w : ButtonId → Watch) : Prop where
  planes : ∀ p, PlaneOk (c.stale s p) (c.levels s p) w
  others : ∀ b, (∀ p, b ∉ (c.levels s p).map Prod.fst) → (w b).pressed = false

variable {c} {s : σ} {e : ε} {w : ButtonId → Watch}

theorem planeOk_congr {stale : Bool} {level : List (ButtonId × Bool)} {w w' : ButtonId → Watch}
    (h : ∀ x ∈ level, w' x.1 = w x.1) (hok : PlaneOk stale level w) : PlaneOk stale level w' := by
  cases stale with
  | false =>
    intro x hx
    have hx' : (w x.1).Tracks x.2 := hok x hx
    rwa [h x hx]
  | true =>
    obtain ⟨hpressed, x, hx, hheld, hdue⟩ := hok
    exact ⟨fun y hy => (h y hy).symm ▸ hpressed y hy, x, hx, hheld, (h x hx).symm ▸ hdue⟩

/-- Over a report that reaches no stale plane every watch accepts the turn, and agrees again. -/
theorem fits_report (hw : c.Wired s) (hf : c.Fits s w) (he : c.isReset e = false) (ht : c.Timely s e) :
    ∃ w', (∀ b, Watch.turn b (w b) (c.turn s e).1 = some (w' b)) ∧ c.Fits (c.turn s e).2 w' := by
  cases hp : c.plane e with
  | none =>
    obtain ⟨hrep, hlevels, hstale⟩ := c.silent s hw e he hp
    refine ⟨w, fun b => hrep.other (by simp), fun p => ?_, fun b hb => hf.others b ?_⟩
    · rw [hlevels, hstale]
      exact hf.planes p
    · rwa [hlevels] at hb
  | some p =>
    obtain ⟨ss, hrep, hwas, hnow, hfresh, hrest⟩ := c.report s hw e he p hp
    have hold : c.stale s p = false := by
      unfold Timely at ht
      rw [he] at ht
      exact ht p hp
    have hbuttons : ss.map (·.button) = (c.levels s p).map Prod.fst := by
      rw [← hwas, List.map_map]
      rfl
    have hbuttons' : ss.map (·.button) = (c.levels (c.turn s e).2 p).map Prod.fst := by
      rw [← hnow, List.map_map]
      rfl
    have hplane : ∀ x ∈ ss, (w x.button).Tracks x.was := by
      have hok := hf.planes p
      rw [hold] at hok
      intro x hx
      exact hok (x.button, x.was) (hwas ▸ List.mem_map.2 ⟨x, hx, rfl⟩)
    have haccept : ∀ b, ∃ w', Watch.turn b (w b) (c.turn s e).1 = some w' := by
      intro b
      by_cases hb : b ∈ ss.map (·.button)
      · obtain ⟨x, hx, rfl⟩ := List.mem_map.1 hb
        obtain ⟨w', hturn, -⟩ := hrep.tracks hx (hplane x hx)
        exact ⟨w', hturn⟩
      · exact ⟨w b, hrep.other hb⟩
    choose w' hw' using haccept
    have hsame : ∀ b, b ∉ ss.map (·.button) → w' b = w b := fun b hb =>
      Option.some.inj ((hw' b).symm.trans (hrep.other hb))
    refine ⟨w', hw', fun q => ?_, fun b hb => ?_⟩
    · by_cases hq : q = p
      · subst hq
        rw [hfresh, ← hnow]
        intro x hx
        obtain ⟨y, hy, rfl⟩ := List.mem_map.1 hx
        obtain ⟨v, hturn, htracks⟩ := hrep.tracks hy (hplane y hy)
        rw [Option.some.inj ((hw' y.button).symm.trans hturn)]
        exact htracks
      · rw [(hrest q hq).1, (hrest q hq).2]
        refine planeOk_congr (fun x hx => hsame x.1 fun hin => hq ?_) (hf.planes q)
        exact c.disjoint s hw q p x.1 (List.mem_map.2 ⟨x, hx, rfl⟩) (hbuttons ▸ hin)
    · have hnot : b ∉ ss.map (·.button) := hbuttons' ▸ hb p
      rw [hsame b hnot]
      refine hf.others b fun q => ?_
      by_cases hq : q = p
      · exact hq ▸ hbuttons ▸ hnot
      · exact (hrest q hq).1 ▸ hb q

/-- A report that reaches a stale plane is refused by the watch of the press that is due. -/
theorem refused_report (hw : c.Wired s) (hf : c.Fits s w) (he : c.isReset e = false) (ht : ¬c.Timely s e) :
    ∃ b, Watch.turn b (w b) (c.turn s e).1 = none := by
  unfold Timely at ht
  rw [he] at ht
  simp only [Bool.false_eq_true, if_false, not_forall] at ht
  obtain ⟨p, hp, hstale⟩ := ht
  obtain ⟨ss, hrep, hwas, -⟩ := c.report s hw e he p hp
  have hok := hf.planes p
  rw [Bool.not_eq_false] at hstale
  rw [hstale] at hok
  obtain ⟨hpressed, x, hx, hheld, hdue⟩ := hok
  have hx' := hx
  rw [← hwas] at hx'
  obtain ⟨y, hy, rfl⟩ := List.mem_map.1 hx'
  exact ⟨y.button, hrep.refused hy hheld (hpressed _ hx) hdue⟩

theorem fits_reset (hf : c.Fits s w) (he : c.isReset e = true) (ht : c.Timely s e) :
    ∃ w', (∀ b, Watch.turn b (w b) (c.turn s e).1 = some (w' b)) ∧ c.Fits (c.turn s e).2 w' := by
  obtain ⟨hturn, hlevels⟩ := c.reset s e he
  unfold Timely at ht
  rw [he, if_pos rfl] at ht
  have hover : ∀ b, c.interrupts s = true ∨ (w b).pressed = false := by
    intro b
    by_cases hb : ∃ p, b ∈ (c.levels s p).map Prod.fst
    · obtain ⟨p, hp⟩ := hb
      obtain ⟨x, hx, rfl⟩ := List.mem_map.1 hp
      have hok := hf.planes p
      cases hs : c.stale s p with
      | true =>
        rw [hs] at hok
        exact .inr (hok.1 x hx)
      | false =>
        rw [hs] at hok
        cases hx2 : x.2 with
        | false => exact .inr ((hok x hx).pressed.trans hx2)
        | true =>
          have hany : anyHeld (c.levels s p) = true := List.any_eq_true.2 ⟨x, hx, hx2⟩
          exact .inl ((ht p hany).resolve_left (by simp [hs]))
    · exact .inr (hf.others b fun p hp => hb ⟨p, hp⟩)
  refine ⟨fun _ => ⟨false, true⟩, fun b => ?_, fun p => ?_, fun _ _ => rfl⟩
  · rw [hturn, Watch.turn_reset, if_pos]
    obtain h | h := hover b
    · simp [h]
    · simp [h]
  · obtain ⟨-, ⟨hclear, hstale⟩ | ⟨hsame, hstale⟩⟩ := hlevels p
    · rw [hstale]
      exact fun x hx => ⟨(hclear x hx).symm, fun _ => hclear x hx⟩
    · rw [hsame, hstale]
      cases hs : c.stale s p with
      | true =>
        have hok := hf.planes p
        rw [hs] at hok
        obtain ⟨-, x, hx, hheld, -⟩ := hok
        exact ⟨fun _ _ => rfl, x, hx, hheld, rfl⟩
      | false =>
        cases hany : anyHeld (c.levels s p) with
        | true =>
          obtain ⟨x, hx, hheld⟩ := List.any_eq_true.1 hany
          exact ⟨fun _ _ => rfl, x, hx, hheld, rfl⟩
        | false =>
          intro x hx
          have hx2 : x.2 = false := by simpa using (List.any_eq_false.1 hany) x hx
          exact ⟨hx2.symm, fun _ => hx2⟩

/-- A reset that finds a press held and says nothing leaves it pressed. -/
theorem refused_reset (hf : c.Fits s w) (he : c.isReset e = true) (ht : ¬c.Timely s e) :
    ∃ b, Watch.turn b (w b) (c.turn s e).1 = none := by
  obtain ⟨hturn, -⟩ := c.reset s e he
  unfold Timely at ht
  rw [he, if_pos rfl] at ht
  simp only [not_forall, not_or, Bool.not_eq_true] at ht
  obtain ⟨p, hany, hstale, hint⟩ := ht
  obtain ⟨x, hx, hheld⟩ := List.any_eq_true.1 hany
  have hok := hf.planes p
  rw [hstale] at hok
  refine ⟨x.1, ?_⟩
  rw [hturn, Watch.turn_reset, hint, (hok x hx).pressed, hheld]
  rfl

/-- **A run is balanced exactly when every one of its steps is timely.** -/
theorem balanced_iff_of_fits : ∀ (es : List ε) (s : σ) (w : ButtonId → Watch), c.Wired s → c.Fits s w →
    ((∀ b, (run (Watch.turn b) (w b) (c.turns s es)).isSome) ↔ Along c.step c.Timely s es)
  | [], _, _, _, _ => by simp [turns, Along]
  | e :: es, s, w, hw, hf => by
    by_cases ht : c.Timely s e
    · have hnext : ∃ w', (∀ b, Watch.turn b (w b) (c.turn s e).1 = some (w' b)) ∧ c.Fits (c.turn s e).2 w' := by
        cases he : c.isReset e with
        | false => exact fits_report hw hf he ht
        | true => exact fits_reset hf he ht
      obtain ⟨w', hturn, hf'⟩ := hnext
      have ih := balanced_iff_of_fits es (c.turn s e).2 w' (c.wired_turn s e hw) hf'
      simp only [turns, run_of_step (hturn _), ih, Along, step, ht, true_and, Option.some.injEq, forall_eq']
    · have hrefused : ∃ b, Watch.turn b (w b) (c.turn s e).1 = none := by
        cases he : c.isReset e with
        | false => exact refused_report hw hf he ht
        | true => exact refused_reset hf he ht
      obtain ⟨b, hb⟩ := hrefused
      refine iff_of_false (fun h => ?_) fun h => ht h.1
      have := h b
      simp [turns, run, hb] at this

/-- A session that starts with nothing held. -/
theorem balanced_iff (hw : c.Wired s) (hheld : ∀ p, ∀ x ∈ c.levels s p, x.2 = false) (hstale : ∀ p, c.stale s p = false)
    (es : List ε) : Balanced (c.turns s es) ↔ Along c.step c.Timely s es := by
  refine balanced_iff_of_fits es s (fun _ => .start) hw ⟨fun p => ?_, fun _ _ => rfl⟩
  rw [hstale p]
  exact fun x hx => ⟨(hheld p x hx).symm, fun _ => hheld p x hx⟩

end Planes

end Session
end OpenLogi
