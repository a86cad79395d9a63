import OpenLogi.KeyDisplay.Painted
import OpenLogi.Lib.Sweep
/-!
# Loop — the passes that paint the LCD keys

A pass plans and writes what it planned, one key after the other; a keypad whose write fails is left for the rest of the
pass.  Beside the state stands the log of the acknowledged faces, newest first.
-/
namespace OpenLogi
namespace KeyDisplay

open Hid (DeviceRoute)
open Lib (Map)

variable {Icon : Type}

/-! ## Tiles -/

/-- An encoded image that the write can declare. -/
structure KeyImageJpeg where
  bytes : List UInt8
  nonempty : 0 < bytes.length
  declared : bytes.length ≤ 65535

def KeyImageJpeg.new (bytes : List UInt8) : Option KeyImageJpeg :=
  if h : 0 < bytes.length ∧ bytes.length ≤ 65535 then some ⟨bytes, h.1, h.2⟩ else none

/-- A face drawn and encoded; `encoded` is what the rasterizer and the encoder make of it. -/
def renderTile (encoded : KeyFace Icon → UInt16 → Option (List UInt8)) (face : KeyFace Icon) (size : UInt16) :
    Option KeyImageJpeg :=
  (encoded face size).bind KeyImageJpeg.new

structure Tiles (Icon : Type) where
  rendered : Map (KeyFace Icon × UInt16) KeyImageJpeg := .empty

namespace Tiles

variable [DecidableEq Icon] (encoded : KeyFace Icon → UInt16 → Option (List UInt8))

def get (tiles : Tiles Icon) (face : KeyFace Icon) (size : UInt16) : Option KeyImageJpeg × Tiles Icon :=
  match tiles.rendered.get (face, size) with
  | some tile => (some tile, tiles)
  | none =>
    match renderTile encoded face size with
    | some tile => (some tile, { rendered := tiles.rendered.put (face, size) tile })
    | none => (none, tiles)

/-- The tile of a face, or a blank one when it cannot be rendered. -/
def getOrBlank (tiles : Tiles Icon) (face : KeyFace Icon) (size : UInt16) : Option KeyImageJpeg × Tiles Icon :=
  match tiles.get encoded face size with
  | (some tile, tiles) => (some tile, tiles)
  | (none, tiles) => tiles.get encoded .blank size

/-- Every tile kept is the one that rendering gives. -/
def Sound (tiles : Tiles Icon) : Prop :=
  ∀ face size tile, tiles.rendered.get (face, size) = some tile → renderTile encoded face size = some tile

variable {encoded}

theorem get_sound {tiles : Tiles Icon} (h : tiles.Sound encoded) (face : KeyFace Icon) (size : UInt16) :
    (tiles.get encoded face size).1 = renderTile encoded face size ∧ (tiles.get encoded face size).2.Sound encoded := by
  unfold get
  cases hkept : tiles.rendered.get (face, size) with
  | some tile => exact ⟨(h face size tile hkept).symm, h⟩
  | none =>
    cases hrender : renderTile encoded face size with
    | none => exact ⟨rfl, h⟩
    | some tile =>
      refine ⟨rfl, fun face' size' tile' h' => ?_⟩
      rw [Map.get_put] at h'
      split at h'
      · rename_i hsame
        cases hsame
        exact hrender.trans h'
      · exact h face' size' tile' h'

/-- The tile that a face or, failing that, a blank renders to. -/
theorem getOrBlank_sound {tiles : Tiles Icon} (h : tiles.Sound encoded) (face : KeyFace Icon) (size : UInt16) :
    (tiles.getOrBlank encoded face size).1 = (renderTile encoded face size).or (renderTile encoded .blank size) ∧
      (tiles.getOrBlank encoded face size).2.Sound encoded := by
  obtain ⟨htile, hsound⟩ := get_sound h face size
  unfold getOrBlank
  cases hget : tiles.get encoded face size with
  | mk tile tiles' =>
    rw [hget] at htile hsound
    cases tile with
    | some tile => exact ⟨by rw [← htile]; rfl, hsound⟩
    | none =>
      obtain ⟨hblank, hsound⟩ := get_sound hsound .blank size
      exact ⟨by rw [← htile]; exact hblank, hsound⟩

end Tiles

/-! ## Passes -/

/-- How the device answers a write. -/
inductive Answer where
  | acknowledged
  | failed (now : Nat)

/-- One turn of the watcher's loop: the specs it borrowed, when it planned, and the answers of its writes in order. -/
structure Pass (Icon : Type) where
  specs : List (KeyDisplaySpec Icon)
  now : Nat
  answers : Nat → Answer
  /-- Time does not run back. -/
  later : ∀ n failedAt, answers n = .failed failedAt → now ≤ failedAt

structure Ack (Icon : Type) where
  route : DeviceRoute
  generation : UInt64
  key : GridKey
  face : KeyFace Icon

/-- The face that a key acknowledged last in a generation of its panel. -/
def lastAcknowledged (log : List (Ack Icon)) (route : DeviceRoute) (generation : UInt64) (key : GridKey) :
    Option (KeyFace Icon) :=
  (log.find? fun ack => ack.route = route && ack.generation = generation && ack.key = key).map Ack.face

structure Painter (Icon : Type) where
  painted : Painted Icon := {}
  tiles : Tiles Icon := {}
  log : List (Ack Icon) := []

namespace Painter

/-! ## What is claimed -/

/-- Every face claimed was the last one acknowledged in its generation. -/
def Truthful (s : Painter Icon) : Prop :=
  ∀ route panel, s.painted.panels.get route = some panel → ∀ key face, panel.faces.get key = some face →
    lastAcknowledged s.log route panel.generation key = some face

/-- Every panel is in the generation of a spec. -/
def Current (specs : List (KeyDisplaySpec Icon)) (s : Painter Icon) : Prop :=
  ∀ route panel, s.painted.panels.get route = some panel →
    ∃ spec ∈ specs, spec.route = route ∧ spec.generation = panel.generation

theorem lastAcknowledged_cons (ack : Ack Icon) (log : List (Ack Icon)) (route : DeviceRoute) (generation : UInt64)
    (key : GridKey) : lastAcknowledged (ack :: log) route generation key =
      if ack.route = route ∧ ack.generation = generation ∧ ack.key = key then some ack.face
      else lastAcknowledged log route generation key := by
  unfold lastAcknowledged
  rw [List.find?_cons]
  by_cases hsame : ack.route = route ∧ ack.generation = generation ∧ ack.key = key
  · rw [if_pos hsame]
    simp [hsame]
  · rw [if_neg hsame]
    have hother : (decide (ack.route = route) && decide (ack.generation = generation) && decide (ack.key = key)) =
        false := by
      simpa [and_assoc] using hsame
    rw [hother]

variable {s : Painter Icon}

theorem truthful_acknowledged (h : s.Truthful) (paint : Paint Icon) (tiles : Tiles Icon) :
    Truthful
      { painted := s.painted.record paint
        tiles
        log := ⟨paint.spec.route, paint.spec.generation, paint.key, paint.face⟩ :: s.log } := by
  intro route panel hpanel key face hface
  rw [lastAcknowledged_cons]
  by_cases hroute : paint.spec.route = route
  · subst hroute
    rcases s.painted.panels_record_self paint with ⟨old, hold, hgeneration, hnew⟩ | ⟨old, hold, hmoved, hnew⟩ | ⟨-, hnew⟩
    · cases hpanel.symm.trans hnew
      rw [Map.get_put] at hface
      by_cases hkey : paint.key = key
      · rw [if_pos hkey] at hface
        rw [if_pos ⟨rfl, hgeneration.symm, hkey⟩]
        exact hface
      · rw [if_neg hkey] at hface
        rw [if_neg fun h => hkey h.2.2]
        exact h _ old hold key face hface
    · cases hpanel.symm.trans hnew
      rw [if_neg fun h => hmoved h.2.1.symm]
      exact h _ panel hold key face hface
    · cases hpanel.symm.trans hnew
      rw [Map.get_put] at hface
      by_cases hkey : paint.key = key
      · rw [if_pos hkey] at hface
        rw [if_pos ⟨rfl, rfl, hkey⟩]
        exact hface
      · rw [if_neg hkey] at hface
        cases hface
  · rw [if_neg fun h => hroute h.1]
    exact h route panel ((s.painted.panels_record_of_ne paint hroute).symm.trans hpanel) key face hface

theorem truthful_failed {delays : Nat → Option Nat} (h : s.Truthful) (paint : Paint Icon) (tiles : Tiles Icon)
    (failedAt : Nat) :
    Truthful { s with painted := s.painted.failed delays paint failedAt, tiles } := by
  intro route panel hpanel key face hface
  dsimp only at hpanel ⊢
  rw [Painted.panels_failed] at hpanel
  by_cases hroute : paint.spec.route = route
  · rw [if_pos hroute] at hpanel
    obtain ⟨old, hold, rfl⟩ := Option.map_eq_some_iff.1 hpanel
    rw [Map.get_erase] at hface
    by_cases hkey : paint.key = key
    · rw [if_pos hkey] at hface
      cases hface
    · rw [if_neg hkey] at hface
      exact h route old hold key face hface
  · rw [if_neg hroute] at hpanel
    exact h route panel hpanel key face hface

theorem current_acknowledged {specs : List (KeyDisplaySpec Icon)} (h : s.Current specs) {paint : Paint Icon}
    (hspec : paint.spec ∈ specs) (tiles : Tiles Icon) (log : List (Ack Icon)) :
    Current specs { painted := s.painted.record paint, tiles, log } := by
  intro route panel hpanel
  dsimp only at hpanel
  by_cases hroute : paint.spec.route = route
  · subst hroute
    rcases s.painted.panels_record_self paint with ⟨old, hold, -, hnew⟩ | ⟨old, hold, -, hnew⟩ | ⟨-, hnew⟩
    · cases hpanel.symm.trans hnew
      exact h _ old hold
    · cases hpanel.symm.trans hnew
      exact h _ panel hold
    · cases hpanel.symm.trans hnew
      exact ⟨paint.spec, hspec, rfl, rfl⟩
  · exact h route panel ((s.painted.panels_record_of_ne paint hroute).symm.trans hpanel)

theorem current_failed {delays : Nat → Option Nat} {specs : List (KeyDisplaySpec Icon)} (h : s.Current specs)
    (paint : Paint Icon) (tiles : Tiles Icon) (failedAt : Nat) :
    Current specs { s with painted := s.painted.failed delays paint failedAt, tiles } := by
  intro route panel hpanel
  dsimp only at hpanel
  rw [Painted.panels_failed] at hpanel
  split at hpanel
  · obtain ⟨old, hold, rfl⟩ := Option.map_eq_some_iff.1 hpanel
    exact h route old hold
  · exact h route panel hpanel

variable [DecidableEq Icon] (encoded : KeyFace Icon → UInt16 → Option (List UInt8)) (delays : Nat → Option Nat)
  (keySize : DeviceRoute → UInt16)

/-! ## One pass -/

/-- Paint every key of `pending`; `failed` are the keypads whose write failed in this pass. -/
def paintAll : List (Paint Icon) → List DeviceRoute → (Nat → Answer) → Painter Icon → Painter Icon
  | [], _, _, s => s
  | paint :: pending, failed, answers, s =>
    if paint.spec.route ∈ failed then paintAll pending failed answers s
    else
      match s.tiles.getOrBlank encoded paint.face (keySize paint.spec.route) with
      | (none, tiles) => paintAll pending failed answers { s with tiles }
      | (some _, tiles) =>
        match answers 0 with
        | .acknowledged =>
          paintAll pending failed (fun n => answers (n + 1))
            { painted := s.painted.record paint
              tiles
              log := ⟨paint.spec.route, paint.spec.generation, paint.key, paint.face⟩ :: s.log }
        | .failed now =>
          paintAll pending (failed ++ [paint.spec.route]) (fun n => answers (n + 1))
            { s with painted := s.painted.failed delays paint now, tiles }

/-- The state after the first `count` planned keys of a pass. -/
def during (s : Painter Icon) (pass : Pass Icon) (count : Nat) : Painter Icon :=
  let (pending, painted) := s.painted.plan pass.specs pass.now
  paintAll encoded delays keySize (pending.take count) [] pass.answers { s with painted }

def pass (s : Painter Icon) (pass : Pass Icon) : Painter Icon :=
  let (pending, painted) := s.painted.plan pass.specs pass.now
  paintAll encoded delays keySize pending [] pass.answers { s with painted }

/-! ## What every write keeps -/

section Induction

variable {encoded delays keySize}

/-- **What each planned key keeps, a pass keeps**, told with the keys that are left and the keypads that failed. -/
theorem paintAll_keeps {now : Nat} (P : List (Paint Icon) → List DeviceRoute → Painter Icon → Prop)
    (hskip : ∀ paint pending failed s, paint.spec.route ∈ failed → P (paint :: pending) failed s → P pending failed s)
    (hnothing : ∀ paint pending failed s, paint.spec.route ∉ failed →
      (s.tiles.getOrBlank encoded paint.face (keySize paint.spec.route)).1 = none → P (paint :: pending) failed s →
      P pending failed
        { s with tiles := (s.tiles.getOrBlank encoded paint.face (keySize paint.spec.route)).2 })
    (hacknowledged : ∀ paint pending failed s tile, paint.spec.route ∉ failed →
      (s.tiles.getOrBlank encoded paint.face (keySize paint.spec.route)).1 = some tile → P (paint :: pending) failed s →
      P pending failed
        { painted := s.painted.record paint
          tiles := (s.tiles.getOrBlank encoded paint.face (keySize paint.spec.route)).2
          log := ⟨paint.spec.route, paint.spec.generation, paint.key, paint.face⟩ :: s.log })
    (hfailed : ∀ paint pending failed s tile failedAt, paint.spec.route ∉ failed →
      (s.tiles.getOrBlank encoded paint.face (keySize paint.spec.route)).1 = some tile → now ≤ failedAt →
      P (paint :: pending) failed s →
      P pending (failed ++ [paint.spec.route])
        { s with
          painted := s.painted.failed delays paint failedAt
          tiles := (s.tiles.getOrBlank encoded paint.face (keySize paint.spec.route)).2 })
    (pending : List (Paint Icon)) (failed : List DeviceRoute) (answers : Nat → Answer)
    (hlater : ∀ n failedAt, answers n = .failed failedAt → now ≤ failedAt) (s : Painter Icon)
    (h : P pending failed s) : ∃ failed', P [] failed' (paintAll encoded delays keySize pending failed answers s) := by
  induction pending generalizing failed answers s with
  | nil => exact ⟨failed, h⟩
  | cons paint pending ih =>
    have hrest : ∀ n failedAt, answers (n + 1) = .failed failedAt → now ≤ failedAt := fun n => hlater (n + 1)
    unfold paintAll
    split
    · rename_i hin
      exact ih failed answers hlater s (hskip paint pending failed s hin h)
    · rename_i hout
      split
      · rename_i tiles htile
        have hpair := congrArg Prod.snd htile
        have hkept := hnothing paint pending failed s hout (congrArg Prod.fst htile) h
        rw [hpair] at hkept
        exact ih failed answers hlater _ hkept
      · rename_i tile tiles htile
        have hpair := congrArg Prod.snd htile
        split
        · have hkept := hacknowledged paint pending failed s tile hout (congrArg Prod.fst htile) h
          rw [hpair] at hkept
          exact ih failed _ hrest _ hkept
        · rename_i failedAt hanswer
          have hkept := hfailed paint pending failed s tile failedAt hout (congrArg Prod.fst htile)
            (hlater 0 failedAt hanswer) h
          rw [hpair] at hkept
          exact ih _ _ hrest _ hkept

end Induction

/-! ## What is known between writes -/

section Invariant

/-- A failing keypad has a key whose face is not known, and a tile for it. -/
def Due (s : Painter Icon) : Prop :=
  ∀ route failing, s.painted.failing.get route = some failing →
    (∃ key, s.painted.faceAt route key = none) ∧ (renderTile encoded .blank (keySize route)).isSome

/-- What a pass leaves of one spec's keys, told with the keys that are left. -/
def Painting (spec : KeyDisplaySpec Icon) (now : Nat) (pending : List (Paint Icon)) (failed : List DeviceRoute)
    (s : Painter Icon) : Prop :=
  (∃ failing, s.painted.failing.get spec.route = some failing ∧ now < failing.retryAt ∧
      (spec.route ∈ failed ∨ ∀ paint ∈ pending, paint.spec.route ≠ spec.route)) ∨
    spec.route ∉ failed ∧ ∀ key, s.painted.faceAt spec.route key = some (spec.faces key) ∨
      (renderTile encoded (spec.faces key) (keySize spec.route)).or (renderTile encoded .blank (keySize spec.route)) =
        none ∨
      ∃ paint ∈ pending, paint.spec = spec ∧ paint.key = key ∧ paint.face = spec.faces key

structure Known (s : Painter Icon) : Prop where
  tiles : s.tiles.Sound encoded
  truthful : s.Truthful
  due : s.Due encoded keySize

variable {encoded delays keySize}

theorem known_start : Known encoded keySize {} where
  tiles := fun _ _ _ h => by cases h
  truthful := fun _ _ h => by cases h
  due := fun _ _ h => by cases h

/-- A face that is not known stays unknown through planning. -/
theorem faceAt_plan {s : Painted Icon} {route : DeviceRoute} {key : GridKey} (h : s.faceAt route key = none)
    (specs : List (KeyDisplaySpec Icon)) (now : Nat) : (s.plan specs now).2.faceAt route key = none := by
  unfold Painted.faceAt at h ⊢
  cases hpanel : (s.plan specs now).2.panels.get route with
  | none => rfl
  | some panel =>
    rw [((s.panels_plan specs now).1 hpanel).1] at h
    exact h

variable {s : Painter Icon} {tiles : Tiles Icon}

theorem known_plan (h : s.Known encoded keySize) (specs : List (KeyDisplaySpec Icon)) (now : Nat) :
    Known encoded keySize { s with painted := (s.painted.plan specs now).2 } where
  tiles := h.tiles
  truthful := fun route panel hpanel => h.truthful route panel ((s.painted.panels_plan specs now).1 hpanel).1
  due := fun route failing hfailing => by
    obtain ⟨⟨key, hkey⟩, hblank⟩ := h.due route failing ((s.painted.failing_plan specs now).1 hfailing).1
    exact ⟨⟨key, faceAt_plan hkey specs now⟩, hblank⟩

theorem known_acknowledged (h : s.Known encoded keySize) (paint : Paint Icon) (htiles : tiles.Sound encoded) :
    Known encoded keySize
      { painted := s.painted.record paint
        tiles
        log := ⟨paint.spec.route, paint.spec.generation, paint.key, paint.face⟩ :: s.log } where
  tiles := htiles
  truthful := truthful_acknowledged h.truthful paint tiles
  due := fun route failing hfailing => by
    obtain ⟨hroute, hfailing⟩ := s.painted.failing_of_record paint hfailing
    obtain ⟨⟨key, hkey⟩, hblank⟩ := h.due route failing hfailing
    exact ⟨⟨key, (s.painted.faceAt_record_of_ne paint hroute key).trans hkey⟩, hblank⟩

theorem known_failed (h : s.Known encoded keySize) (paint : Paint Icon) (htiles : tiles.Sound encoded)
    (hblank : (renderTile encoded .blank (keySize paint.spec.route)).isSome) (failedAt : Nat) :
    Known encoded keySize { s with painted := s.painted.failed delays paint failedAt, tiles } where
  tiles := htiles
  truthful := truthful_failed h.truthful paint tiles failedAt
  due := fun route failing hfailing => by
    dsimp only at hfailing ⊢
    by_cases hroute : paint.spec.route = route
    · refine ⟨⟨paint.key, ?_⟩, hroute ▸ hblank⟩
      rw [Painted.faceAt_failed, if_pos ⟨hroute, rfl⟩]
    · obtain ⟨_, _, -, hget⟩ := s.painted.failing_failed paint delays failedAt route
      rw [hget, if_neg hroute] at hfailing
      obtain ⟨⟨key, hkey⟩, hrendered⟩ := h.due route failing hfailing
      refine ⟨⟨key, ?_⟩, hrendered⟩
      rw [Painted.faceAt_failed, if_neg fun h => hroute h.1]
      exact hkey

/-- A tile rendered, so a blank one does: it is the same image without the glyph. -/
theorem blank_of_tile
    (hblank : ∀ face size, (renderTile encoded face size).isSome → (renderTile encoded .blank size).isSome)
    (htiles : tiles.Sound encoded) {face : KeyFace Icon} {size : UInt16} {tile : KeyImageJpeg}
    (h : (tiles.getOrBlank encoded face size).1 = some tile) : (renderTile encoded .blank size).isSome := by
  rw [(Tiles.getOrBlank_sound htiles face size).1] at h
  cases hface : renderTile encoded face size with
  | some tile =>
    exact hblank face size (Option.isSome_iff_exists.2 ⟨tile, hface⟩)
  | none =>
    rw [hface, Option.none_or] at h
    exact Option.isSome_iff_exists.2 ⟨tile, h⟩

/-- A failed write puts the keypad's deadline into the future. -/
theorem now_lt_of_failed (hdelays : ∀ n delay, delays n = some delay → retryDelay ≤ delay) {now failedAt : Nat}
    (hlater : now ≤ failedAt) (attempts : Nat) : now < failedAt + Painted.nextDelay delays attempts := by
  have hpos : 0 < Painted.nextDelay delays attempts := by
    unfold Painted.nextDelay
    cases hdelay : delays attempts with
    | none => decide
    | some delay => exact Nat.lt_of_lt_of_le (by decide) (hdelays attempts delay hdelay)
  omega

/-- **A lapsed deadline is planned**, unless its keypad is gone. -/
theorem planned_of_lapsed (h : s.Known encoded keySize) (specs : List (KeyDisplaySpec Icon)) (now : Nat)
    {route : DeviceRoute} {failing : FailingPanel}
    (hfailing : (s.painted.plan specs now).2.failing.get route = some failing) (hlapsed : failing.retryAt ≤ now) :
    ∃ paint ∈ (s.painted.plan specs now).1, paint.spec.route = route := by
  obtain ⟨hbefore, spec, hspec, rfl, -⟩ := (s.painted.failing_plan specs now).1 hfailing
  obtain ⟨⟨key, hkey⟩, -⟩ := h.due spec.route failing hbefore
  refine ⟨{ spec, key, face := spec.faces key }, (s.painted.mem_plan specs now).2 ⟨hspec, ?_, rfl, ?_⟩, rfl⟩
  · intro other hother
    cases hfailing.symm.trans hother
    exact hlapsed
  · rw [faceAt_plan hkey specs now]
    intro hface
    cases hface

end Invariant

/-! ## What one planned key keeps -/

section Steps

variable {encoded delays keySize}

theorem known_tiles {s : Painter Icon} (h : s.Known encoded keySize) (face : KeyFace Icon) (size : UInt16) :
    Known encoded keySize { s with tiles := (s.tiles.getOrBlank encoded face size).2 } where
  tiles := (Tiles.getOrBlank_sound h.tiles face size).2
  truthful := h.truthful
  due := h.due

/-- What a pass plans of one spec's keys. -/
theorem painting_plan (s : Painter Icon) {spec : KeyDisplaySpec Icon} {specs : List (KeyDisplaySpec Icon)}
    (hspec : spec ∈ specs) (now : Nat) :
    Painting encoded keySize spec now (s.painted.plan specs now).1 []
      { s with painted := (s.painted.plan specs now).2 } := by
  by_cases hheld : ∃ failing, (s.painted.plan specs now).2.failing.get spec.route = some failing ∧
      now < failing.retryAt
  · obtain ⟨failing, hfailing, hlater⟩ := hheld
    refine .inl ⟨failing, hfailing, hlater, .inr fun paint hpaint hroute => ?_⟩
    exact Nat.not_le_of_lt hlater (((s.painted.mem_plan specs now).1 hpaint).2.1 failing (hroute ▸ hfailing))
  · refine .inr ⟨List.not_mem_nil, fun key => ?_⟩
    by_cases hface : (s.painted.plan specs now).2.faceAt spec.route key = some (spec.faces key)
    · exact .inl hface
    · refine .inr (.inr ⟨{ spec, key, face := spec.faces key }, ?_, rfl, rfl, rfl⟩)
      refine (s.painted.mem_plan specs now).2 ⟨hspec, fun failing hfailing => ?_, rfl, hface⟩
      exact Nat.le_of_not_lt fun hlater => hheld ⟨failing, hfailing, hlater⟩

omit [DecidableEq Icon]

/-- What a pass leaves of the deadlines, told with the keys that are left. -/
def Lapsing (now : Nat) (pending : List (Paint Icon)) (failed : List DeviceRoute) (s : Painter Icon) : Prop :=
  ∀ route failing, s.painted.failing.get route = some failing →
    now < failing.retryAt ∨ route ∉ failed ∧ ∃ paint ∈ pending, paint.spec.route = route

variable {now : Nat} {paint : Paint Icon} {pending : List (Paint Icon)} {failed : List DeviceRoute} {s : Painter Icon}

/-- A key that is done with leaves the deadlines of the other keypads. -/
theorem Lapsing.tail (h : s.Lapsing now (paint :: pending) failed)
    (hdone : ∀ failing, s.painted.failing.get paint.spec.route = some failing → paint.spec.route ∉ failed → False) :
    s.Lapsing now pending failed := by
  intro route failing hfailing
  rcases h route failing hfailing with hlater | ⟨hout, other, hother, rfl⟩
  · exact .inl hlater
  · rcases List.mem_cons.1 hother with rfl | hother
    · exact (hdone failing hfailing hout).elim
    · exact .inr ⟨hout, other, hother, rfl⟩

theorem Lapsing.acknowledged (h : s.Lapsing now (paint :: pending) failed) (tiles : Tiles Icon) (log : List (Ack Icon)) :
    Lapsing now pending failed { painted := s.painted.record paint, tiles, log } := by
  intro route failing hfailing
  obtain ⟨hroute, hfailing⟩ := s.painted.failing_of_record paint hfailing
  rcases h route failing hfailing with hlater | ⟨hout, other, hother, rfl⟩
  · exact .inl hlater
  · rcases List.mem_cons.1 hother with rfl | hother
    · exact absurd rfl hroute
    · exact .inr ⟨hout, other, hother, rfl⟩

theorem not_mem_failed_append {route other : DeviceRoute} (hout : route ∉ failed) (hne : other ≠ route) :
    route ∉ failed ++ [other] := by
  intro hin
  rcases List.mem_append.1 hin with hin | hin
  · exact hout hin
  · exact hne (List.mem_singleton.1 hin).symm

theorem Lapsing.write_failed (h : s.Lapsing now (paint :: pending) failed)
    (hdelays : ∀ n delay, delays n = some delay → retryDelay ≤ delay) {failedAt : Nat} (hlate : now ≤ failedAt)
    (tiles : Tiles Icon) :
    Lapsing now pending (failed ++ [paint.spec.route])
      { s with painted := s.painted.failed delays paint failedAt, tiles } := by
  intro route failing hfailing
  obtain ⟨moved, attempts, hmoved, hget⟩ := s.painted.failing_failed paint delays failedAt route
  dsimp only at hfailing
  rw [hget] at hfailing
  by_cases hroute : paint.spec.route = route
  · rw [if_pos hroute] at hfailing
    obtain rfl := Option.some.inj hfailing
    exact .inl (hmoved ▸ now_lt_of_failed hdelays hlate attempts)
  · rw [if_neg hroute] at hfailing
    rcases h route failing hfailing with hlater | ⟨hout, other, hother, rfl⟩
    · exact .inl hlater
    · rcases List.mem_cons.1 hother with rfl | hother
      · exact absurd rfl hroute
      · exact .inr ⟨not_mem_failed_append hout hroute, other, hother, rfl⟩

variable {spec : KeyDisplaySpec Icon}

/-- A key that is done with leaves what is known of the other keys. -/
theorem Painting.tail (h : s.Painting encoded keySize spec now (paint :: pending) failed)
    (hdone : spec.route ∉ failed → paint.spec = spec → paint.face = spec.faces paint.key →
      (renderTile encoded (spec.faces paint.key) (keySize spec.route)).or
        (renderTile encoded .blank (keySize spec.route)) = none) :
    s.Painting encoded keySize spec now pending failed := by
  rcases h with ⟨failing, hfailing, hlater, hleft⟩ | ⟨hout, hkeys⟩
  · exact .inl ⟨failing, hfailing, hlater,
      hleft.imp_right fun h paint hpaint => h paint (List.mem_cons_of_mem _ hpaint)⟩
  · refine .inr ⟨hout, fun key => ?_⟩
    rcases hkeys key with hface | hnothing | ⟨other, hother, hspec, rfl, hface⟩
    · exact .inl hface
    · exact .inr (.inl hnothing)
    · rcases List.mem_cons.1 hother with rfl | hother
      · exact .inr (.inl (hdone hout hspec hface))
      · exact .inr (.inr ⟨other, hother, hspec, rfl, hface⟩)

/-- **An acknowledged face** is known of its key, and the other keys are as they were. -/
theorem Painting.acknowledged (h : s.Painting encoded keySize spec now (paint :: pending) failed)
    (hfresh : paint.spec.route ∉ failed) (hsame : paint.spec.route = spec.route → paint.spec = spec)
    (hwanted : paint.face = paint.spec.faces paint.key)
    (hcurrent : ∀ panel, s.painted.panels.get spec.route = some panel → panel.generation = spec.generation)
    (tiles : Tiles Icon) (log : List (Ack Icon)) :
    Painting encoded keySize spec now pending failed { painted := s.painted.record paint, tiles, log } := by
  rcases h with ⟨failing, hfailing, hlater, hleft⟩ | ⟨hout, hkeys⟩
  · have hroute : paint.spec.route ≠ spec.route := by
      rcases hleft with hin | hnone
      · exact fun h => hfresh (h ▸ hin)
      · exact hnone paint List.mem_cons_self
    refine .inl ⟨failing, ?_, hlater, hleft.imp_right fun h paint hpaint => h paint (List.mem_cons_of_mem _ hpaint)⟩
    exact (s.painted.failing_record paint spec.route).trans ((if_neg hroute).trans hfailing)
  · refine .inr ⟨hout, fun key => ?_⟩
    by_cases hroute : paint.spec.route = spec.route
    · obtain rfl := hsame hroute
      have hface := s.painted.faceAt_record_self paint hcurrent key
      by_cases hkey : paint.key = key
      · rw [if_pos hkey, hwanted, hkey] at hface
        exact .inl hface
      · rw [if_neg hkey] at hface
        rcases hkeys key with hold | hnothing | ⟨other, hother, hrest⟩
        · exact .inl (hface.trans hold)
        · exact .inr (.inl hnothing)
        · rcases List.mem_cons.1 hother with rfl | hother
          · exact absurd hrest.2.1 hkey
          · exact .inr (.inr ⟨other, hother, hrest⟩)
    · rcases hkeys key with hold | hnothing | ⟨other, hother, hrest⟩
      · exact .inl ((s.painted.faceAt_record_of_ne paint hroute key).trans hold)
      · exact .inr (.inl hnothing)
      · rcases List.mem_cons.1 hother with rfl | hother
        · exact absurd (congrArg KeyDisplaySpec.route hrest.1) hroute
        · exact .inr (.inr ⟨other, hother, hrest⟩)

/-- **A failed write** gives its keypad a deadline, and the other keypads are as they were. -/
theorem Painting.write_failed (h : s.Painting encoded keySize spec now (paint :: pending) failed)
    (hdelays : ∀ n delay, delays n = some delay → retryDelay ≤ delay) {failedAt : Nat} (hlate : now ≤ failedAt)
    (tiles : Tiles Icon) :
    Painting encoded keySize spec now pending (failed ++ [paint.spec.route])
      { s with painted := s.painted.failed delays paint failedAt, tiles } := by
  obtain ⟨moved, attempts, hmoved, hget⟩ := s.painted.failing_failed paint delays failedAt spec.route
  by_cases hroute : paint.spec.route = spec.route
  · refine .inl ⟨moved, hget.trans (if_pos hroute), hmoved ▸ now_lt_of_failed hdelays hlate attempts, .inl ?_⟩
    exact hroute ▸ List.mem_append_right _ (List.mem_singleton_self _)
  · rcases h with ⟨failing, hfailing, hlater, hleft⟩ | ⟨hout, hkeys⟩
    · refine .inl ⟨failing, hget.trans ((if_neg hroute).trans hfailing), hlater, ?_⟩
      exact hleft.imp (fun h => List.mem_append_left _ h) fun h paint hpaint => h paint (List.mem_cons_of_mem _ hpaint)
    · refine .inr ⟨not_mem_failed_append hout hroute, fun key => ?_⟩
      rcases hkeys key with hold | hnothing | ⟨other, hother, hrest⟩
      · refine .inl ((s.painted.faceAt_failed paint delays failedAt spec.route key).trans ?_)
        rw [if_neg fun h => hroute h.1]
        exact hold
      · exact .inr (.inl hnothing)
      · rcases List.mem_cons.1 hother with rfl | hother
        · exact absurd (congrArg KeyDisplaySpec.route hrest.1) hroute
        · exact .inr (.inr ⟨other, hother, hrest⟩)

end Steps

/-! ## Whole passes -/

section Run

variable {encoded delays keySize}
variable (hblank : ∀ face size, (renderTile encoded face size).isSome → (renderTile encoded .blank size).isSome)
  (hdelays : ∀ n delay, delays n = some delay → retryDelay ≤ delay)
include hblank

variable {s : Painter Icon}

/-- What a pass keeps, after any number of its keys. -/
theorem known_during (h : s.Known encoded keySize) (pass : Pass Icon) (count : Nat) :
    Known encoded keySize (s.during encoded delays keySize pass count) ∧
      Current pass.specs (s.during encoded delays keySize pass count) := by
  have hstart : Current pass.specs { s with painted := (s.painted.plan pass.specs pass.now).2 } :=
    fun route panel hpanel => ((s.painted.panels_plan pass.specs pass.now).1 hpanel).2
  have hspecs : ∀ paint ∈ (s.painted.plan pass.specs pass.now).1.take count, paint.spec ∈ pass.specs :=
    fun paint hpaint => ((s.painted.mem_plan pass.specs pass.now).1 (List.mem_of_mem_take hpaint)).1
  have hkept := @paintAll_keeps Icon _ encoded delays keySize pass.now
    (fun pending _ s => Known encoded keySize s ∧ Current pass.specs s ∧ ∀ paint ∈ pending, paint.spec ∈ pass.specs)
    ?_ ?_ ?_ ?_ _ [] pass.answers pass.later _ ⟨known_plan h pass.specs pass.now, hstart, hspecs⟩
  · obtain ⟨_, hknown, hcurrent, -⟩ := hkept
    exact ⟨hknown, hcurrent⟩
  · rintro paint pending failed s - ⟨hknown, hcurrent, hspecs⟩
    exact ⟨hknown, hcurrent, fun paint h => hspecs paint (List.mem_cons_of_mem _ h)⟩
  · rintro paint pending failed s - - ⟨hknown, hcurrent, hspecs⟩
    exact ⟨known_tiles hknown _ _, hcurrent, fun paint h => hspecs paint (List.mem_cons_of_mem _ h)⟩
  · rintro paint pending failed s tile - - ⟨hknown, hcurrent, hspecs⟩
    exact ⟨known_acknowledged hknown paint (known_tiles hknown _ _).tiles,
      current_acknowledged hcurrent (hspecs paint List.mem_cons_self) _ _,
      fun paint h => hspecs paint (List.mem_cons_of_mem _ h)⟩
  · rintro paint pending failed s tile failedAt - htile - ⟨hknown, hcurrent, hspecs⟩
    exact ⟨known_failed hknown paint (known_tiles hknown _ _).tiles (blank_of_tile hblank hknown.tiles htile) failedAt,
      current_failed hcurrent paint _ failedAt, fun paint h => hspecs paint (List.mem_cons_of_mem _ h)⟩

include hdelays

/-- **No lapsed deadline outlasts a pass.** -/
theorem now_lt_retryAt (h : s.Known encoded keySize) (pass : Pass Icon) {route : DeviceRoute} {failing : FailingPanel}
    (hfailing : (s.pass encoded delays keySize pass).painted.failing.get route = some failing) :
    pass.now < failing.retryAt := by
  have hkept := @paintAll_keeps Icon _ encoded delays keySize pass.now
    (fun pending failed s => Known encoded keySize s ∧ s.Lapsing pass.now pending failed)
    ?_ ?_ ?_ ?_ (s.painted.plan pass.specs pass.now).1 [] pass.answers pass.later
    { s with painted := (s.painted.plan pass.specs pass.now).2 } ⟨known_plan h pass.specs pass.now, ?_⟩
  · obtain ⟨_, -, hdue⟩ := hkept
    rcases hdue route failing hfailing with hlater | ⟨-, paint, hpaint, -⟩
    · exact hlater
    · cases hpaint
  · rintro paint pending failed s hin ⟨hknown, hdue⟩
    exact ⟨hknown, hdue.tail fun _ _ hout => hout hin⟩
  · rintro paint pending failed s - hnothing ⟨hknown, hdue⟩
    refine ⟨known_tiles hknown _ _, hdue.tail fun failing hfailing _ => ?_⟩
    -- a keypad that fails has a tile for every key
    have hrendered := (hknown.due _ failing hfailing).2
    rw [(Tiles.getOrBlank_sound hknown.tiles _ _).1, Option.or_eq_none_iff] at hnothing
    rw [hnothing.2] at hrendered
    cases hrendered
  · rintro paint pending failed s tile - - ⟨hknown, hdue⟩
    exact ⟨known_acknowledged hknown paint (known_tiles hknown _ _).tiles, hdue.acknowledged _ _⟩
  · rintro paint pending failed s tile failedAt - htile hlate ⟨hknown, hdue⟩
    exact ⟨known_failed hknown paint (known_tiles hknown _ _).tiles (blank_of_tile hblank hknown.tiles htile) failedAt,
      hdue.write_failed hdelays hlate _⟩
  · intro route failing hfailing
    by_cases hlapsed : failing.retryAt ≤ pass.now
    · exact .inr ⟨List.not_mem_nil, planned_of_lapsed h pass.specs pass.now hfailing hlapsed⟩
    · exact .inl (Nat.lt_of_not_le hlapsed)

/-- **No key is forgotten**: after a pass each key shows its face, or its keypad has a deadline, or nothing renders. -/
theorem painted_or_due (h : s.Known encoded keySize) (pass : Pass Icon)
    (hroutes : (pass.specs.map KeyDisplaySpec.route).Nodup) {spec : KeyDisplaySpec Icon} (hspec : spec ∈ pass.specs)
    (key : GridKey) :
    (s.pass encoded delays keySize pass).painted.faceAt spec.route key = some (spec.faces key) ∨
      (∃ failing, (s.pass encoded delays keySize pass).painted.failing.get spec.route = some failing ∧
        pass.now < failing.retryAt) ∨
      (renderTile encoded (spec.faces key) (keySize spec.route)).or (renderTile encoded .blank (keySize spec.route)) =
        none := by
  have hsame : ∀ other ∈ pass.specs, other.route = spec.route → other = spec := fun other hother hroute =>
    List.inj_on_of_nodup_map hroutes hother hspec hroute
  have hkept := @paintAll_keeps Icon _ encoded delays keySize pass.now
    (fun pending failed s => Known encoded keySize s ∧ Current pass.specs s ∧
      (∀ paint ∈ pending, paint.spec ∈ pass.specs ∧ paint.face = paint.spec.faces paint.key) ∧
      Painting encoded keySize spec pass.now pending failed s)
    ?_ ?_ ?_ ?_ (s.painted.plan pass.specs pass.now).1 [] pass.answers pass.later
    { s with painted := (s.painted.plan pass.specs pass.now).2 } ?_
  · obtain ⟨_, -, -, -, hpainting⟩ := hkept
    rcases hpainting with ⟨failing, hfailing, hlater, -⟩ | ⟨-, hkeys⟩
    · exact .inr (.inl ⟨failing, hfailing, hlater⟩)
    · rcases hkeys key with hface | hnothing | ⟨paint, hpaint, -⟩
      · exact .inl hface
      · exact .inr (.inr hnothing)
      · cases hpaint
  · rintro paint pending failed s hin ⟨hknown, hcurrent, hpending, hpainting⟩
    refine ⟨hknown, hcurrent, fun paint h => hpending paint (List.mem_cons_of_mem _ h), hpainting.tail ?_⟩
    exact fun hout hspec _ => absurd (hspec ▸ hin) hout
  · rintro paint pending failed s - hnone ⟨hknown, hcurrent, hpending, hpainting⟩
    refine ⟨known_tiles hknown _ _, hcurrent, fun paint h => hpending paint (List.mem_cons_of_mem _ h),
      hpainting.tail ?_⟩
    rintro - rfl hface
    rw [(Tiles.getOrBlank_sound hknown.tiles _ _).1, hface] at hnone
    exact hnone
  · rintro paint pending failed s tile hfresh - ⟨hknown, hcurrent, hpending, hpainting⟩
    obtain ⟨hmem, hwanted⟩ := hpending paint List.mem_cons_self
    refine ⟨known_acknowledged hknown paint (known_tiles hknown _ _).tiles, current_acknowledged hcurrent hmem _ _,
      fun paint h => hpending paint (List.mem_cons_of_mem _ h),
      hpainting.acknowledged hfresh (hsame paint.spec hmem) hwanted (fun panel hpanel => ?_) _ _⟩
    obtain ⟨other, hother, hroute, hgeneration⟩ := hcurrent _ panel hpanel
    rw [← hgeneration, hsame other hother hroute]
  · rintro paint pending failed s tile failedAt - htile hlate ⟨hknown, hcurrent, hpending, hpainting⟩
    exact ⟨known_failed hknown paint (known_tiles hknown _ _).tiles (blank_of_tile hblank hknown.tiles htile) failedAt,
      current_failed hcurrent paint _ failedAt, fun paint h => hpending paint (List.mem_cons_of_mem _ h),
      hpainting.write_failed hdelays hlate _⟩
  · have hplanned := fun paint (hpaint : paint ∈ (s.painted.plan pass.specs pass.now).1) =>
      (s.painted.mem_plan pass.specs pass.now).1 hpaint
    exact ⟨known_plan h pass.specs pass.now,
      fun route panel hpanel => ((s.painted.panels_plan pass.specs pass.now).1 hpanel).2,
      fun paint hpaint => ⟨(hplanned paint hpaint).1, (hplanned paint hpaint).2.2.1⟩, painting_plan s hspec pass.now⟩

omit hdelays in
theorem known_pass (h : s.Known encoded keySize) (pass : Pass Icon) :
    Known encoded keySize (s.pass encoded delays keySize pass) := by
  have hknown := (@known_during Icon _ encoded delays keySize hblank s h pass
    (s.painted.plan pass.specs pass.now).1.length).1
  unfold during at hknown
  dsimp only at hknown
  rw [List.take_length] at hknown
  exact hknown

end Run

/-- **Painting keeps its word**: after any passes and through the next one, what is claimed was acknowledged last in the
spec's generation; what differs is planned or waits for a deadline; a lapsed deadline is planned or gone, and outlasts no
pass; and no key is left without its face, a deadline or a tile. -/
theorem painting_keeps (encoded : KeyFace Icon → UInt16 → Option (List UInt8)) (delays : Nat → Option Nat)
    (keySize : DeviceRoute → UInt16)
    (hblank : ∀ face size, (renderTile encoded face size).isSome → (renderTile encoded .blank size).isSome)
    (hdelays : ∀ n delay, delays n = some delay → retryDelay ≤ delay) (passes : List (Pass Icon)) (pass : Pass Icon) :
    let s := passes.foldl (Painter.pass encoded delays keySize) {}
    let planned := s.painted.plan pass.specs pass.now
    let after := s.pass encoded delays keySize pass
    (∀ count, (s.during encoded delays keySize pass count).Truthful ∧
      (s.during encoded delays keySize pass count).Current pass.specs) ∧
    (∀ spec ∈ pass.specs, ∀ key, planned.2.faceAt spec.route key ≠ some (spec.faces key) →
      { spec, key, face := spec.faces key } ∈ planned.1 ∨
        ∃ failing, planned.2.failing.get spec.route = some failing ∧ pass.now < failing.retryAt) ∧
    (∀ route failing, s.painted.failing.get route = some failing → failing.retryAt ≤ pass.now →
      (∃ paint ∈ planned.1, paint.spec.route = route) ∨ planned.2.failing.get route = none) ∧
    (∀ due, after.painted.nextRetry = some due → pass.now < due) ∧
    ((pass.specs.map KeyDisplaySpec.route).Nodup → ∀ spec ∈ pass.specs, ∀ key,
      after.painted.faceAt spec.route key = some (spec.faces key) ∨
        (∃ failing, after.painted.failing.get spec.route = some failing ∧ pass.now < failing.retryAt) ∨
        (renderTile encoded (spec.faces key) (keySize spec.route)).or
          (renderTile encoded .blank (keySize spec.route)) = none) := by
  intro s planned after
  have hknown : Known encoded keySize s :=
    Lib.foldl_keeps (Known encoded keySize) (fun s pass h => known_pass hblank h pass) passes {} known_start
  refine ⟨fun count => ?_, fun spec hspec key hdiffers => ?_, fun route failing hfailing hlapsed => ?_, fun due hdue => ?_,
    fun hroutes spec hspec key => painted_or_due hblank hdelays hknown pass hroutes hspec key⟩
  · obtain ⟨hduring, hcurrent⟩ := @known_during Icon _ encoded delays keySize hblank s hknown pass count
    exact ⟨hduring.truthful, hcurrent⟩
  · by_cases hheld : ∃ failing, planned.2.failing.get spec.route = some failing ∧ pass.now < failing.retryAt
    · exact .inr hheld
    · refine .inl ((s.painted.mem_plan pass.specs pass.now).2 ⟨hspec, fun failing hfailing => ?_, rfl, hdiffers⟩)
      exact Nat.le_of_not_lt fun hlater => hheld ⟨failing, hfailing, hlater⟩
  · cases hkept : planned.2.failing.get route with
    | none => exact .inr rfl
    | some kept =>
      have hsame := ((s.painted.failing_plan pass.specs pass.now).1 hkept).1
      cases hfailing.symm.trans hsame
      exact .inl (planned_of_lapsed hknown pass.specs pass.now hkept hlapsed)
  · obtain ⟨failing, hfailing, rfl⟩ := List.mem_map.1 (List.min?_mem hdue)
    obtain ⟨row, hrow, rfl⟩ := List.mem_map.1 hfailing
    exact now_lt_retryAt hblank hdelays hknown pass (Map.get_eq_some.2 hrow)

/-! A keypad that refuses every image. -/

def keypadSpec : KeyDisplaySpec Unit :=
  { route := .direct 0x046d 0xc354, generation := 4, faces := fun key => if key = .middle then .icon () else .blank }

def refusing (now : Nat) : Pass Unit :=
  { specs := [keypadSpec], now, answers := fun n => .failed (now + n), later := fun n failedAt h => by cases h; omega }

def smallImage (_ : KeyFace Unit) (_ : UInt16) : Option (List UInt8) := some [0xff, 0xd8, 0xff, 0xd9]

def doubling (n : Nat) : Option Nat := some (min (retryDelay * 2 ^ n) maxRetryDelay)

theorem retryDelay_le_doubling (n delay : Nat) (h : doubling n = some delay) : retryDelay ≤ delay := by
  obtain rfl := Option.some.inj h
  refine Nat.le_min.2 ⟨?_, by decide⟩
  exact Nat.le_mul_of_pos_right _ (Nat.two_pow_pos n)

/-- Its second refusal puts the deadline behind the second pass. -/
theorem refusing_keypad_waits :
    ∃ due, ((({} : Painter Unit).pass smallImage doubling (fun _ => 118) (refusing 0)).pass smallImage doubling
      (fun _ => 118) (refusing (10 ^ 9))).painted.nextRetry = some due ∧ 10 ^ 9 < due := by
  have hsome : ((({} : Painter Unit).pass smallImage doubling (fun _ => 118) (refusing 0)).pass smallImage doubling
      (fun _ => 118) (refusing (10 ^ 9))).painted.nextRetry.isSome = true := by decide +kernel
  obtain ⟨due, hdue⟩ := Option.isSome_iff_exists.1 hsome
  refine ⟨due, hdue, ?_⟩
  exact (painting_keeps smallImage doubling (fun _ => 118) (fun _ _ _ => rfl) retryDelay_le_doubling [refusing 0]
    (refusing (10 ^ 9))).2.2.2.1 due hdue

end Painter

end KeyDisplay
end OpenLogi
