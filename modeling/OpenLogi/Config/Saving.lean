import OpenLogi.Config.File
/-!
# Saving — what a save leaves at every step

A save that has compared the file holds its lock, so the file is the text it was loaded from until the save itself
replaces it, and a migrated file's text is beside it by then (`Standing`).  The rest is that no step of another writer
touches what the lock guards.
-/
namespace OpenLogi
namespace Config

open Lib (run run_inv)

variable {C W P : Type}

/-- The save holds the lock. -/
def Stage.locked : Stage → Bool
  | .resolveSymlinks | .createDir | .openLock | .tryLock => false
  | _ => true

/-- The save has compared the file. -/
def Stage.compared : Stage → Bool
  | .resolveSymlinks | .createDir | .openLock | .tryLock | .check => false
  | _ => true

/-- The save has kept a migrated file's text. -/
def Stage.kept : Stage → Bool
  | .resolveSymlinks | .createDir | .openLock | .tryLock | .check | .keepMigrated => false
  | _ => true

/-- What the save has rendered. -/
def Stage.body : Stage → Option String
  | .backup body | .rotate body _ _ | .shift body _ _ _ | .commit body => some body
  | _ => none

/-- A file is known to its writer: the text of an older schema is owed a backup. -/
structure Known (toml : Toml C) (config : Document C) (file : ConfigFile) : Prop where
  current : config.schemaVersion = SCHEMA_VERSION
  owed : ∀ source version, file.source = some source → toml.header source = some version → version < SCHEMA_VERSION →
    file.migratedFrom = some (version, source)

/-- What holds of a writer in every state. -/
structure Standing (toml : Toml C) (w : W) (disk : Disk W P) (writer : Writer C) : Prop where
  known : ∀ config file, writer.loaded = some (config, file) → Known toml config file
  locked : ∀ stage, writer.stage = some stage → stage.locked = true → disk.lock = some w
  compared : ∀ stage config file, writer.stage = some stage → writer.loaded = some (config, file) →
    stage.compared = true → disk.content = file.source
  kept : ∀ stage config file, writer.stage = some stage → writer.loaded = some (config, file) → stage.kept = true →
    ∀ version original, file.migratedFrom = some (version, original) → disk.migrationBackups version = some original
  rendered : ∀ stage config file, writer.stage = some stage → writer.loaded = some (config, file) →
    ∀ body, stage.body = some body → toml.render config file.source = some body

/-- The text that a writer compares the file with. -/
def Writer.revision (writer : Writer C) : Option (Option String) := writer.loaded.map fun loaded => loaded.2.source

/-- A save ended well. -/
def Saved (writer writer' : Writer C) : Prop :=
  writer.stage.isSome = true ∧ writer'.stage = none ∧ writer'.result = some (.ok ())

/-- The file is replaced by all that the save of a writer rendered: it was the text that the writer knew, and the text
of an older schema is beside it. -/
structure Replaces (toml : Toml C) (disk disk' : Disk W P) (writer : Writer C) : Prop where
  rendered : ∃ config file body, writer.loaded = some (config, file) ∧ toml.render config file.source = some body ∧
    disk'.content = some body ∧ disk.content = file.source
  backed : ∀ source version, disk.content = some source → toml.header source = some version →
    version < SCHEMA_VERSION → disk.migrationBackups version = some source

/-! ## Loading -/

theorem parseConfig_ok {toml : Toml C} {source : String} {config : Document C} {version : Nat}
    (h : parseConfig toml source = .ok (config, version)) :
    config.schemaVersion = SCHEMA_VERSION ∧ toml.header source = some version := by
  unfold parseConfig at h
  split at h
  · cases h
  · next declared hheader =>
    split at h
    · cases h
    · split at h
      · cases h
      · split at h
        · cases h
        · dsimp only at h
          split at h
          · cases h
          · cases h
            exact ⟨rfl, hheader⟩

theorem loadFromPath_ok {toml : Toml C} {content : Option String} {config : Document C} {file : ConfigFile}
    (h : ConfigFile.loadFromPath toml content = .ok (config, file)) :
    file.source = content ∧ Known toml config file := by
  unfold ConfigFile.loadFromPath at h
  split at h
  · next source =>
    split at h
    · cases h
    · next parsed version hparse =>
      obtain ⟨hcurrent, hheader⟩ := parseConfig_ok hparse
      cases h
      refine ⟨rfl, hcurrent, fun text declared htext hdeclared holder => ?_⟩
      cases htext
      rw [hheader, Option.some.injEq] at hdeclared
      rw [hdeclared, if_pos holder]
  · cases h
    exact ⟨rfl, rfl, fun _ _ hnone => (by cases hnone)⟩

/-! ## One step of a save -/

section
variable [DecidableEq W] {toml : Toml C} {w : W} {disk disk' : Disk W P} {writer : Writer C} {config : Document C}
  {file : ConfigFile}

theorem finish_standing (h : ∀ config file, writer.loaded = some (config, file) → Known toml config file)
    (result : Except ConfigError Unit) :
    Standing toml w (finish disk w writer result).1 (finish disk w writer result).2 where
  known := h
  locked _ hstage := by cases hstage
  compared _ _ _ hstage := by cases hstage
  kept _ _ _ hstage := by cases hstage
  rendered _ _ _ hstage := by cases hstage

omit [DecidableEq W] in
/-- The next stage needs its own share of `Standing`. -/
theorem Standing.goto (h : Standing toml w disk writer) (hloaded : writer.loaded = some (config, file)) (next : Stage)
    (hlocked : next.locked = true → disk'.lock = some w)
    (hcompared : next.compared = true → disk'.content = file.source)
    (hkept : next.kept = true → ∀ version original, file.migratedFrom = some (version, original) →
      disk'.migrationBackups version = some original)
    (hrendered : ∀ body, next.body = some body → toml.render config file.source = some body) :
    Standing toml w disk' (writer.goto next) where
  known := h.known
  locked stage hstage := by cases hstage; exact hlocked
  compared stage config' file' hstage hloaded' := by
    cases hstage
    cases hloaded.symm.trans hloaded'
    exact hcompared
  kept stage config' file' hstage hloaded' := by
    cases hstage
    cases hloaded.symm.trans hloaded'
    exact hkept
  rendered stage config' file' hstage hloaded' := by
    cases hstage
    cases hloaded.symm.trans hloaded'
    exact hrendered

end

variable [DecidableEq W] [DecidableEq P] {toml : Toml C} {w : W} {p : P} {outcome : Outcome} {disk : Disk W P}
  {writer : Writer C} {config : Document C} {file : ConfigFile} {stage : Stage}

theorem advance_standing (hrender : ∀ config source body, config.schemaVersion = SCHEMA_VERSION →
      toml.render config source = some body → toml.header body = some SCHEMA_VERSION)
    (h : Standing toml w disk writer) (hloaded : writer.loaded = some (config, file))
    (hstage : writer.stage = some stage) :
    Standing toml w (advance toml w p outcome disk writer config file stage).1
      (advance toml w p outcome disk writer config file stage).2 := by
  have hlocked := h.locked stage hstage
  have hcompared := h.compared stage config file hstage hloaded
  have hkept := h.kept stage config file hstage hloaded
  have hrendered := h.rendered stage config file hstage hloaded
  have hfinish : ∀ (disk : Disk W P) (error : ConfigError),
      Standing toml w (finish disk w writer (.error error)).1 (finish disk w writer (.error error)).2 :=
    fun _ _ => finish_standing h.known _
  cases stage with
  | resolveSymlinks | createDir | openLock =>
    simp only [advance]
    split
    · exact h.goto hloaded _ (fun hno => (by cases hno)) (fun hno => (by cases hno)) (fun hno => (by cases hno))
        (fun _ hno => (by cases hno))
    · exact hfinish _ _
  | tryLock =>
    simp only [advance]
    split
    · exact h.goto hloaded _ (fun _ => rfl) (fun hno => (by cases hno)) (fun hno => (by cases hno))
        (fun _ hno => (by cases hno))
    · exact hfinish _ _
  | check =>
    simp only [advance]
    split
    · exact hfinish _ _
    · split
      · exact hfinish _ _
      · next hsame =>
        exact h.goto hloaded _ hlocked (fun _ => not_not.1 hsame) (fun hno => (by cases hno))
          (fun _ hno => (by cases hno))
  | keepMigrated =>
    simp only [advance]
    split
    · next hnone =>
      refine h.goto hloaded _ hlocked hcompared (fun _ version original howed => ?_) (fun _ hno => (by cases hno))
      rw [hnone] at howed
      cases howed
    · next version original howed =>
      cases outcome with
      | ok =>
        refine h.goto hloaded _ hlocked hcompared (fun _ other text htext => ?_) (fun _ hno => (by cases hno))
        cases howed.symm.trans htext
        exact Function.update_self ..
      | late | failed => exact hfinish _ _
  | render =>
    simp only [advance]
    split
    · exact hfinish _ _
    · next body hbody =>
      exact h.goto hloaded _ hlocked hcompared hkept (fun _ heq => (by cases heq; exact hbody))
  | backup body =>
    simp only [advance]
    split
    · exact h.goto hloaded _ hlocked hcompared hkept hrendered
    · split
      · exact hfinish _ _
      · split
        · exact h.goto hloaded _ hlocked hcompared hkept hrendered
        · exact h.goto hloaded _ hlocked hcompared hkept hrendered
  | rotate body current generation =>
    cases generation with
    | zero =>
      cases outcome with
      | ok => exact h.goto hloaded _ hlocked hcompared hkept hrendered
      | late | failed => exact hfinish _ _
    | succ generation =>
      simp only [advance]
      split
      · exact hfinish _ _
      · split
        · exact h.goto hloaded _ hlocked hcompared hkept hrendered
        · exact h.goto hloaded _ hlocked hcompared hkept hrendered
  | shift body current bytes generation =>
    cases outcome with
    | ok => exact h.goto hloaded _ hlocked hcompared hkept hrendered
    | late | failed => exact hfinish _ _
  | commit body =>
    cases outcome with
    | ok =>
      refine finish_standing (fun config' file' hnew => ?_) _
      cases hnew
      have hcurrent := (h.known config file hloaded).current
      refine ⟨hcurrent, fun source version hsource hheader holder => ?_⟩
      -- what a save writes declares the current schema
      cases hsource
      rw [hrender _ _ _ hcurrent (hrendered body rfl), Option.some.injEq] at hheader
      omega
    | late | failed => exact hfinish _ _

/-- **A save leaves what another writer's lock guards.** -/
theorem advance_frame (h : Standing toml w disk writer) (hstage : writer.stage = some stage) {other : W}
    (hne : other ≠ w) (hlock : disk.lock = some other) :
    (advance toml w p outcome disk writer config file stage).1.lock = some other ∧
      (advance toml w p outcome disk writer config file stage).1.content = disk.content ∧
      (advance toml w p outcome disk writer config file stage).1.migrationBackups = disk.migrationBackups := by
  have hunlocked : stage.locked = false := by
    refine Bool.eq_false_iff.2 fun hlocked => hne ?_
    exact Option.some.inj (hlock.symm.trans (h.locked stage hstage hlocked))
  have hfinish : ∀ error, (finish disk w writer (.error error)).1.lock = some other := by
    intro error
    simp [finish, hlock, hne]
  cases stage with
  | resolveSymlinks | createDir | openLock =>
    simp only [advance]
    split
    · exact ⟨hlock, rfl, rfl⟩
    · exact ⟨hfinish _, rfl, rfl⟩
  | tryLock =>
    have hheld : (outcome = .ok && disk.lock.isNone) = false := by simp [hlock]
    simp only [advance, hheld, Bool.false_eq_true, if_false]
    exact ⟨hfinish _, rfl, rfl⟩
  | _ => cases hunlocked

omit [DecidableEq W] [DecidableEq P] in
/-- A save is about to replace the file. -/
theorem Standing.replaces (h : Standing toml w disk writer) (hloaded : writer.loaded = some (config, file))
    {body : String} (hstage : writer.stage = some (.commit body)) {disk' : Disk W P}
    (hcontent : disk'.content = some body) :
    Replaces toml disk disk' writer where
  rendered := ⟨config, file, body, hloaded, h.rendered _ config file hstage hloaded body rfl, hcontent,
    h.compared _ config file hstage hloaded rfl⟩
  backed source version hsource hheader holder := by
    have hsame := h.compared _ config file hstage hloaded rfl
    have howed := (h.known config file hloaded).owed source version (hsame.symm.trans hsource) hheader holder
    exact h.kept _ config file hstage hloaded rfl version source howed

/-- **What a step of a save can do**: leave the file, replace it and report a failure, or replace it and end well. -/
theorem advance_cases (p : P) (outcome : Outcome) (h : Standing toml w disk writer)
    (hloaded : writer.loaded = some (config, file)) (hstage : writer.stage = some stage) :
    let after := advance toml w p outcome disk writer config file stage
    (¬ Saved writer after.2 ∧ after.2.loaded = writer.loaded ∧
        (after.1.content = disk.content ∨ Replaces toml disk after.1 writer)) ∨
      Saved writer after.2 ∧ Replaces toml disk after.1 writer ∧ after.2.revision = some after.1.content := by
  have hgoto : ∀ (disk' : Disk W P) (next : Stage), disk'.content = disk.content →
      (¬ Saved writer (writer.goto next) ∧ (writer.goto next).loaded = writer.loaded ∧
        (disk'.content = disk.content ∨ Replaces toml disk disk' writer)) :=
    fun _ _ hsame => ⟨fun hsaved => (by cases hsaved.2.1), rfl, .inl hsame⟩
  have hfinish : ∀ (disk' : Disk W P) (error : ConfigError),
      (disk'.content = disk.content ∨ Replaces toml disk disk' writer) →
      (¬ Saved writer (finish disk' w writer (.error error)).2 ∧
        (finish disk' w writer (.error error)).2.loaded = writer.loaded ∧
        ((finish disk' w writer (.error error)).1.content = disk.content ∨
          Replaces toml disk (finish disk' w writer (.error error)).1 writer)) :=
    fun _ _ hsame => ⟨fun hsaved => (by cases hsaved.2.2), rfl, hsame.imp id fun hr => ⟨hr.rendered, hr.backed⟩⟩
  cases stage with
  | commit body =>
    cases outcome with
    | ok => exact .inr ⟨⟨by rw [hstage]; rfl, rfl, rfl⟩, h.replaces hloaded hstage rfl, rfl⟩
    | late => exact .inl (hfinish _ _ (.inr (h.replaces hloaded hstage rfl)))
    | failed => exact .inl (hfinish _ _ (.inl rfl))
  | resolveSymlinks | createDir | openLock | tryLock =>
    refine .inl ?_
    simp only [advance]
    split
    · exact hgoto _ _ rfl
    · exact hfinish _ _ (.inl rfl)
  | check =>
    refine .inl ?_
    simp only [advance]
    split
    · exact hfinish _ _ (.inl rfl)
    · split
      · exact hfinish _ _ (.inl rfl)
      · exact hgoto _ _ rfl
  | keepMigrated =>
    refine .inl ?_
    simp only [advance]
    split
    · exact hgoto _ _ rfl
    · cases outcome with
      | ok => exact hgoto _ _ rfl
      | late | failed => exact hfinish _ _ (.inl rfl)
  | render =>
    refine .inl ?_
    simp only [advance]
    split
    · exact hfinish _ _ (.inl rfl)
    · exact hgoto _ _ rfl
  | backup body =>
    refine .inl ?_
    simp only [advance]
    split
    · exact hgoto _ _ rfl
    · split
      · exact hfinish _ _ (.inl rfl)
      · split <;> exact hgoto _ _ rfl
  | rotate body current generation =>
    refine .inl ?_
    cases generation with
    | zero =>
      cases outcome with
      | ok => exact hgoto _ _ rfl
      | late | failed => exact hfinish _ _ (.inl rfl)
    | succ generation =>
      simp only [advance]
      split
      · exact hfinish _ _ (.inl rfl)
      · split <;> exact hgoto _ _ rfl
  | shift body current bytes generation =>
    refine .inl ?_
    cases outcome with
    | ok => exact hgoto _ _ rfl
    | late | failed => exact hfinish _ _ (.inl rfl)

/-! ## Every run -/

variable {process : W → P}

/-- What holds in every state. -/
def Sys.Stands (toml : Toml C) (s : Sys W P C) : Prop := ∀ w, Standing toml w s.disk (s.writers w)

variable {s : Sys W P C} {e : Event W C}

omit [DecidableEq W] [DecidableEq P] in
/-- What a lock guards is enough for the writer that holds it. -/
theorem Standing.frame {w : W} {disk' : Disk W P} (h : Standing toml w disk writer)
    (hguarded : disk.lock = some w → disk'.lock = some w ∧ disk'.content = disk.content ∧
      disk'.migrationBackups = disk.migrationBackups) : Standing toml w disk' writer where
  known := h.known
  locked stage hstage hlocked := (hguarded (h.locked stage hstage hlocked)).1
  compared stage config file hstage hloaded hcompared := by
    have hlocked : stage.locked = true := by cases stage <;> first | rfl | cases hcompared
    rw [(hguarded (h.locked stage hstage hlocked)).2.1]
    exact h.compared stage config file hstage hloaded hcompared
  kept stage config file hstage hloaded hkept := by
    have hlocked : stage.locked = true := by cases stage <;> first | rfl | cases hkept
    rw [(hguarded (h.locked stage hstage hlocked)).2.2]
    exact h.kept stage config file hstage hloaded hkept
  rendered := h.rendered

omit [DecidableEq W] [DecidableEq P] in
/-- A writer that is not saving, or has only begun to. -/
theorem standing_of_unlocked {w : W}
    (hknown : ∀ config file, writer.loaded = some (config, file) → Known toml config file)
    (hstage : writer.stage = none ∨ writer.stage = some .resolveSymlinks) : Standing toml w disk writer where
  known := hknown
  locked stage heq hlocked := by
    obtain hnone | hbegun := hstage
    · cases hnone.symm.trans heq
    · cases hbegun.symm.trans heq
      cases hlocked
  compared stage _ _ heq _ hcompared := by
    obtain hnone | hbegun := hstage
    · cases hnone.symm.trans heq
    · cases hbegun.symm.trans heq
      cases hcompared
  kept stage _ _ heq _ hkept := by
    obtain hnone | hbegun := hstage
    · cases hnone.symm.trans heq
    · cases hbegun.symm.trans heq
      cases hkept
  rendered stage _ _ heq _ _ hbody := by
    obtain hnone | hbegun := hstage
    · cases hnone.symm.trans heq
    · cases hbegun.symm.trans heq
      cases hbody

omit [DecidableEq P] in
/-- A step that replaces one writer. -/
theorem Sys.Stands.update (h : s.Stands toml) {w : W} (hw : Standing toml w disk writer)
    (hothers : ∀ other, other ≠ w → s.disk.lock = some other → disk.lock = some other ∧ disk.content = s.disk.content ∧
      disk.migrationBackups = s.disk.migrationBackups) :
    Sys.Stands toml ⟨disk, Function.update s.writers w writer⟩ := by
  intro other
  by_cases heq : other = w
  · subst heq
    simpa using hw
  · simp only [Function.update_of_ne heq]
    exact (h other).frame (hothers other heq)

theorem Sys.Stands.step (hrender : ∀ config source body, config.schemaVersion = SCHEMA_VERSION →
      toml.render config source = some body → toml.header body = some SCHEMA_VERSION) {s' : Sys W P C}
    (h : s.Stands toml) (hstep : s.step toml process e = some s') : s'.Stands toml := by
  cases e with
  | load w outcome =>
    simp only [Sys.step] at hstep
    split at hstep
    · cases hstep
    · next hidle =>
      split at hstep
      · cases hstep
        exact h
      · split at hstep
        · cases hstep
          exact h
        · next loaded hloaded =>
          cases hstep
          refine h.update (standing_of_unlocked (fun config file heq => ?_) (.inl (by simpa using hidle)))
            fun _ _ hlock => ⟨hlock, rfl, rfl⟩
          cases heq
          exact (loadFromPath_ok hloaded).2
  | edit w rest =>
    simp only [Sys.step] at hstep
    split at hstep
    · next config file hidle hloaded =>
      cases hstep
      refine h.update (standing_of_unlocked (fun config' file' heq => ?_) (.inl hidle))
        fun _ _ hlock => ⟨hlock, rfl, rfl⟩
      cases heq
      have hknown := (h w).known config file hloaded
      exact ⟨hknown.current, hknown.owed⟩
    · cases hstep
  | save w =>
    simp only [Sys.step] at hstep
    split at hstep
    · cases hstep
      exact h.update (standing_of_unlocked (h w).known (.inr rfl)) fun _ _ hlock => ⟨hlock, rfl, rfl⟩
    · cases hstep
  | advance w outcome =>
    simp only [Sys.step] at hstep
    split at hstep
    · next stage config file hstage hloaded =>
      cases hstep
      exact h.update (advance_standing hrender (h w) hloaded hstage) fun _ hne hlock =>
        advance_frame (h w) hstage hne hlock
    · cases hstep

/-- One step is safe: the file stays or is replaced whole, a save ends well only by replacing the text that its writer
knew, and what a writer knows is what it loaded or wrote last. -/
structure SafeStep (toml : Toml C) (s : Sys W P C) (e : Event W C) (s' : Sys W P C) : Prop where
  file : s'.disk.content = s.disk.content ∨ ∃ w, Replaces toml s.disk s'.disk (s.writers w)
  saved : ∀ w, Saved (s.writers w) (s'.writers w) → Replaces toml s.disk s'.disk (s.writers w)
  revision : ∀ w, (s'.writers w).revision = (s.writers w).revision ∨
    (∃ outcome, e = .load w outcome) ∧ (s'.writers w).revision = some s.disk.content ∨
    Saved (s.writers w) (s'.writers w) ∧ (s'.writers w).revision = some s'.disk.content

omit [DecidableEq P] in
theorem not_saved_self (writer : Writer C) : ¬ Saved writer writer := by
  rintro ⟨hsome, hnone, -⟩
  rw [hnone] at hsome
  cases hsome

omit [DecidableEq P] in
/-- A step that leaves the disk and one writer's revision. -/
theorem safeStep_update {w : W} (hidle : (s.writers w).stage = none)
    (hrevision : writer.revision = (s.writers w).revision ∨
      (∃ outcome, e = .load w outcome) ∧ writer.revision = some s.disk.content) :
    SafeStep toml s e { s with writers := Function.update s.writers w writer } where
  file := .inl rfl
  saved other hsaved := by
    by_cases heq : other = w
    · subst heq
      have hsome := hsaved.1
      rw [hidle] at hsome
      cases hsome
    · simp only [Function.update_of_ne heq] at hsaved
      exact (not_saved_self _ hsaved).elim
  revision other := by
    by_cases heq : other = w
    · subst heq
      simp only [Function.update_self]
      exact hrevision.imp_right .inl
    · refine .inl ?_
      simp only [Function.update_of_ne heq]

theorem Sys.Stands.safeStep {s' : Sys W P C} (h : s.Stands toml) (hstep : s.step toml process e = some s') :
    SafeStep toml s e s' := by
  have hsame : SafeStep toml s e s :=
    ⟨.inl rfl, fun w hsaved => (not_saved_self _ hsaved).elim, fun _ => .inl rfl⟩
  cases e with
  | load w outcome =>
    simp only [Sys.step] at hstep
    split at hstep
    · cases hstep
    · next hidle =>
      split at hstep
      · cases hstep
        exact hsame
      · split at hstep
        · cases hstep
          exact hsame
        · next loaded hloaded =>
          cases hstep
          refine safeStep_update (by simpa using hidle) (.inr ⟨⟨outcome, rfl⟩, ?_⟩)
          exact congrArg some (loadFromPath_ok hloaded).1
  | edit w rest =>
    simp only [Sys.step] at hstep
    split at hstep
    · next config file hidle hloaded =>
      cases hstep
      refine safeStep_update hidle (.inl ?_)
      simp [Writer.revision, hloaded]
    · cases hstep
  | save w =>
    simp only [Sys.step] at hstep
    split at hstep
    · next hidle _ =>
      cases hstep
      exact safeStep_update hidle (.inl rfl)
    · cases hstep
  | advance w outcome =>
    simp only [Sys.step] at hstep
    split at hstep
    · next stage config file hstage hloaded =>
      cases hstep
      have hcases := advance_cases (process w) outcome (h w) hloaded hstage
      refine ⟨?_, fun other hsaved => ?_, fun other => ?_⟩
      · obtain ⟨-, -, hsame | hreplaces⟩ | ⟨-, hreplaces, -⟩ := hcases
        · exact .inl hsame
        · exact .inr ⟨w, hreplaces⟩
        · exact .inr ⟨w, hreplaces⟩
      · by_cases heq : other = w
        · subst heq
          simp only [Function.update_self] at hsaved
          obtain ⟨hnot, -⟩ | ⟨-, hreplaces, -⟩ := hcases
          · exact (hnot hsaved).elim
          · exact hreplaces
        · simp only [Function.update_of_ne heq] at hsaved
          exact (not_saved_self _ hsaved).elim
      · by_cases heq : other = w
        · subst heq
          simp only [Function.update_self]
          obtain ⟨-, hloaded', -⟩ | ⟨hsaved, -, hrevision⟩ := hcases
          · exact .inl (by rw [Writer.revision, hloaded', Writer.revision])
          · exact .inr (.inr ⟨hsaved, hrevision⟩)
        · refine .inl ?_
          simp only [Function.update_of_ne heq]
    · cases hstep

omit [DecidableEq W] [DecidableEq P] in
theorem Sys.stands_start (disk : Disk W P) : (Sys.start disk : Sys W P C).Stands toml :=
  fun _ => standing_of_unlocked (fun _ _ hno => (by cases hno)) (.inl rfl)

/-- **Saving is safe**: in every state the file is what it was first or all that a save rendered, and every step there
is safe. -/
theorem save_safe (toml : Toml C) (hrender : ∀ config source body, config.schemaVersion = SCHEMA_VERSION →
      toml.render config source = some body → toml.header body = some SCHEMA_VERSION)
    (process : W → P) (disk : Disk W P) (events : List (Event W C)) (s : Sys W P C)
    (hrun : run (Sys.step toml process) (Sys.start disk) events = some s) :
    (s.disk.content = disk.content ∨
        ∃ config source body, toml.render config source = some body ∧ s.disk.content = some body) ∧
      ∀ e s', s.step toml process e = some s' → SafeStep toml s e s' := by
  have hinv := run_inv (fun s => s.Stands toml ∧ (s.disk.content = disk.content ∨
      ∃ config source body, toml.render config source = some body ∧ s.disk.content = some body))
    (fun s e s' hs hstep => by
      refine ⟨hs.1.step hrender hstep, ?_⟩
      obtain hsame | ⟨w, hreplaces⟩ := (hs.1.safeStep hstep).file
      · rw [hsame]
        exact hs.2
      · obtain ⟨config, file, body, -, hbody, hcontent, -⟩ := hreplaces.rendered
        exact .inr ⟨config, file.source, body, hbody, hcontent⟩) events _ s ⟨Sys.stands_start disk, .inl rfl⟩ hrun
  exact ⟨hinv.2, fun e s' hstep => hinv.1.safeStep hstep⟩

/-- TOML texts of two lines: the schema, and one setting. -/
def twoLines : Toml Bool where
  header text := if "schema_version = 11\n".toList <+: text.toList then some 11
    else if "schema_version = 4\n".toList <+: text.toList then some 4 else none
  hasObsoleteField _ _ := false
  decode text :=
    match String.ofList ((text.toList.dropWhile (· ≠ '\n')).drop 1) with
    | "app_settings.launch_at_login = true" => some true
    | "app_settings.launch_at_login = false" => some false
    | _ => none
  migrateOwnerLockedGestures := id
  migrateTransportScopedKeys := id
  migrateThumbwheelNativeDirection := id
  repairDuplicateRoutes := id
  undefinedAppAlias _ := false
  default := false
  render config _ := some ("schema_version = " ++ toString config.schemaVersion ++
    "\napp_settings.launch_at_login = " ++ toString config.rest)

/-- Two writers load a file of schema 4, and the first saves it. -/
theorem save_safe_migrated :
    let process : Bool → Unit := fun _ => ()
    let disk : Disk Bool Unit := { content := some "schema_version = 4\napp_settings.launch_at_login = false",
                                   migrationBackups := fun _ => none, configBackups := fun _ => none }
    let events : List (Event Bool Bool) := [.load false .ok, .load true .ok, .edit false true, .save false] ++
      List.replicate 14 (.advance false .ok) ++ [.save true]
    ∃ s, run (Sys.step twoLines process) (Sys.start disk) events = some s ∧
      s.disk.content = some "schema_version = 11\napp_settings.launch_at_login = true" ∧
      (s.disk.content = disk.content ∨
        ∃ config source body, twoLines.render config source = some body ∧ s.disk.content = some body) ∧
      ∀ e s', s.step twoLines process e = some s' → SafeStep twoLines s e s' := by
  intro process disk events
  have hend : (run (Sys.step twoLines process) (Sys.start disk) events).map (fun s => s.disk.content) =
      some (some "schema_version = 11\napp_settings.launch_at_login = true") := by decide +kernel
  obtain ⟨s, hs, hcontent⟩ := Option.map_eq_some_iff.1 hend
  refine ⟨s, hs, hcontent, save_safe twoLines (fun config source body hcurrent hbody => ?_) process disk events s hs⟩
  cases hbody
  rw [hcurrent]
  refine if_pos ?_
  have hdigits : Nat.toDigits 10 SCHEMA_VERSION = ['1', '1'] := by decide
  simp [hdigits]

end Config
end OpenLogi
