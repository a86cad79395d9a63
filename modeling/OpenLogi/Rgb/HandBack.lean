import OpenLogi.Lib.Run
import OpenLogi.Rgb.Control
/-!
# HandBack — what an agent that leaves hands back

The invariant of a session says what a lease knows of the device it was taken on and what the write of a route knows
of the device that answers.  Nothing but the devices that come to a route can break it: a write or a release that fails
breaks only that its device is covered.
-/
namespace OpenLogi
namespace Rgb

open Lib (run Along along_append along_cons along_inv)

variable {R B D : Type} (unitId : D → UnitId)

/-! ## What must hold of a route -/

/-- The lease was taken on the device, through the connection. -/
def Own (lease : Option (Held B D)) (connection : B) (device : D) : Prop :=
  ∃ held, lease = some held ∧ held.binding = connection ∧ held.on = device

/-- A lease of a route that is recorded, still owed or being handed back. -/
def Session.Leased (s : Session R B D) (route : R) (lease : Held B D) : Prop :=
  s.held route = some lease ∨ s.owes route = some lease ∨ s.stage route = .returning lease ∨
    s.stage route = .confirmed lease

/-- A device on the current connection of a route that a claim took out of the firmware's control has the flags from
before the first claim, with the clusters left to the firmware, or a lease of its own whose release sends those: the
flags themselves, where the firmware held it. -/
def Covered (s : Session R B D) (route : R) : Prop :=
  ∀ connection device first, s.world.slots route = some (connection, device) →
    s.first (connection, device) = some first → s.taken (connection, device) = true →
      s.world.flags device = first.release ∨ ∃ held, s.Leased route held ∧ held.binding = connection ∧
        held.on = device ∧ held.lease.device = unitId device ∧ held.lease.release = first.release ∧
        (first.held = false → held.lease.release = first)

/-! ## The condition -/

/-- A device that comes to a route over a connection: no write or release of the route has read through that
connection, and no write goes through another while the lease recorded was taken on that one; a device that was claimed
there comes with the flags of before, and out of the firmware's control only to its lease; and no lease of another
device names its unit. -/
structure Clean (s : Session R B D) (route : R) (connection : B) (device : D) (flags : RgbSwControl) : Prop where
  quiet : ∀ b, (s.stage route).through = some b → b ≠ connection ∧
    ((s.stage route).writes = true → ∀ held, s.held route = some held → held.binding ≠ connection)
  before : ∀ first, s.first (connection, device) = some first → flags.release = first.release
  back : s.taken (connection, device) = true → flags.held = true →
    Own (s.held route) connection device ∨ Own (s.owes route) connection device
  told : ∀ held, s.held route = some held ∨ s.owes route = some held → held.binding = connection →
    held.lease.device = unitId device → held.on = device

def Meets (s : Session R B D) : Event R B D → Prop
  | .place route (some (connection, device)) flags => Clean unitId s route connection device flags
  | _ => True

/-! ## The invariant -/

/-- A lease names the unit of its device, and restores the flags from before the first claim of it. -/
def Keeps (first : B × D → Option RgbSwControl) (held : Held B D) : Prop :=
  held.lease.device = unitId held.on ∧
    ∃ flags, first (held.binding, held.on) = some flags ∧ held.lease.release = flags.release

/-- What a route finds before it. -/
structure Env (B D : Type) where
  slot : Option (B × D)
  flags : D → RgbSwControl
  first : B × D → Option RgbSwControl
  taken : B × D → Bool
  owed : Option (Held B D)

/-- What the write or the release of a route knows of the device that answers through its connection. -/
def Known (e : Env B D) : Stage B D → Prop
  | .idle | .resolved _ => True
  | .identified c unit => ∀ d, e.slot = some (c, d) → unit = unitId d
  | .snapped c unit previous => ∀ d, e.slot = some (c, d) → unit = unitId d ∧ e.flags d = previous
  | .painting c unit previous on took =>
    Keeps unitId e.first ⟨c, ⟨previous, unit⟩, on⟩ ∧ took = !previous.held ∧
      ∀ d, e.slot = some (c, d) → d = on ∧ e.flags d = previous.claim
  | .leased lease => Keeps unitId e.first lease ∧ ∀ d, e.slot = some (lease.binding, d) → d = lease.on
  | .failed c previous took => ∀ d, e.slot = some (c, d) →
      (e.flags d).release = previous.release ∧ (took = true → previous.held = false) ∧
        (took = false → e.flags d = previous)
  | .returning lease => Keeps unitId e.first lease ∧
      ∀ d, e.slot = some (lease.binding, d) → lease.lease.device = unitId d → lease.on = d
  | .confirmed lease => Keeps unitId e.first lease ∧ ∀ d, e.slot = some (lease.binding, d) → lease.on = d

/-- What holds of one route: its leases are of devices that they restore, what its write knows is so, and the device
that answers is as it was first found but for the clusters, and is covered. -/
structure Sound (e : Env B D) (stage : Stage B D) (held : Option (Held B D)) (stray : Bool) : Prop where
  kept : ∀ x, held = some x ∨ e.owed = some x → Keeps unitId e.first x
  told : ∀ x d, held = some x ∨ e.owed = some x → e.slot = some (x.binding, d) → x.lease.device = unitId d → x.on = d
  known : Known unitId e stage
  elsewhere : stage.writes = true → ∀ b x d, stage.through = some b → held = some x →
    e.slot = some (x.binding, d) → b = x.binding
  flags : ∀ c d before, e.slot = some (c, d) → e.first (c, d) = some before → (e.flags d).release = before.release
  covered : ∀ c d, e.slot = some (c, d) → e.taken (c, d) = true → (e.flags d).held = true →
    stray = true ∨ Own held c d ∨ Own e.owed c d ∨ stage.Takes c d

def Session.env (s : Session R B D) (route : R) : Env B D where
  slot := s.world.slots route
  flags := s.world.flags
  first := s.first
  taken := s.taken
  owed := s.owes route

/-- Every route is sound, and every release went to the device of its lease. -/
structure Inv (s : Session R B D) : Prop where
  sound : ∀ route, Sound unitId (s.env route) (s.stage route) (s.held route) (s.stray route)
  sent : ∀ pair ∈ s.sent, pair.1 = pair.2

variable {unitId}

/-! ## One route -/

/-- What an event of another route leaves of what a route finds. -/
structure Same (e e' : Env B D) : Prop where
  owed : e'.owed = e.owed
  first : ∀ key before, e.first key = some before → e'.first key = some before
  slot : ∀ c d, e'.slot = some (c, d) → e.slot = some (c, d) ∧ e'.flags d = e.flags d ∧
    e'.first (c, d) = e.first (c, d) ∧ e'.taken (c, d) = e.taken (c, d)

section
variable {e e' : Env B D} {old stage : Stage B D} {held held' : Option (Held B D)} {stray stray' : Bool} {c : B} {d : D}

theorem Same.flags {flags : D → RgbSwControl} (h : ∀ c d, e.slot = some (c, d) → flags d = e.flags d) :
    Same e { e with flags := flags } := ⟨rfl, fun _ _ => id, fun c d hslot => ⟨hslot, h c d hslot, rfl, rfl⟩⟩

theorem Env.here (hslot : e.slot = some (c, d)) {c' : B} {d' : D} (h : e.slot = some (c', d')) : c' = c ∧ d' = d := by
  cases h.symm.trans hslot
  exact ⟨rfl, rfl⟩

theorem Keeps.mono {first first' : B × D → Option RgbSwControl} {lease : Held B D} (h : Keeps unitId first lease)
    (hfirst : ∀ key before, first key = some before → first' key = some before) : Keeps unitId first' lease := by
  obtain ⟨hunit, flags, hat, hflags⟩ := h
  exact ⟨hunit, flags, hfirst _ _ hat, hflags⟩

theorem Known.mono (h : Known unitId e stage)
    (hfirst : ∀ key before, e.first key = some before → e'.first key = some before)
    (hslot : ∀ c d, stage.through = some c → e'.slot = some (c, d) → e.slot = some (c, d) ∧ e'.flags d = e.flags d) :
    Known unitId e' stage := by
  cases stage with
  | idle | resolved => trivial
  | identified c unit => exact fun d hd => h d (hslot c d rfl hd).1
  | snapped c unit previous | failed c previous took =>
    intro d hd
    obtain ⟨hd', heq⟩ := hslot c d rfl hd
    exact heq ▸ h d hd'
  | painting c unit previous on took =>
    obtain ⟨hkeeps, htook, h⟩ := h
    refine ⟨hkeeps.mono hfirst, htook, fun d hd => ?_⟩
    obtain ⟨hd', heq⟩ := hslot c d rfl hd
    exact heq ▸ h d hd'
  | leased lease | returning lease | confirmed lease =>
    exact ⟨h.1.mono hfirst, fun d hd => h.2 d (hslot _ d rfl hd).1⟩

theorem Sound.same (h : Sound unitId e stage held stray) (hsame : Same e e') : Sound unitId e' stage held stray where
  kept x hx := (h.kept x (hsame.owed ▸ hx)).mono hsame.first
  told x d hx hslot := h.told x d (hsame.owed ▸ hx) (hsame.slot _ d hslot).1
  known := h.known.mono hsame.first fun c d _ hslot => ⟨(hsame.slot c d hslot).1, (hsame.slot c d hslot).2.1⟩
  elsewhere hw b x d hb hx hslot := h.elsewhere hw b x d hb hx (hsame.slot _ d hslot).1
  flags c d before hslot hfirst := by
    obtain ⟨hslot, hflags, heq, -⟩ := hsame.slot c d hslot
    rw [hflags]
    exact h.flags c d before hslot (heq ▸ hfirst)
  covered c d hslot htaken hheld := by
    obtain ⟨hslot, hflags, -, heq⟩ := hsame.slot c d hslot
    rw [hsame.owed]
    exact h.covered c d hslot (heq ▸ htaken) (hflags ▸ hheld)

/-- A write or a release that goes on, through the connection it had or the one the route has. -/
theorem Sound.proceed (h : Sound unitId e old held stray) (hknown : Known unitId e stage)
    (hthrough : stage.writes = true → ∀ b, stage.through = some b →
      old.writes = true ∧ old.through = some b ∨ ∃ d, e.slot = some (b, d))
    (htakes : ∀ c d, e.slot = some (c, d) → old.Takes c d → stray' = true ∨ stage.Takes c d)
    (hstray : stray = true → stray' = true) : Sound unitId e stage held stray' :=
  { h with
    known := hknown
    elsewhere := fun hw b x d hb hx hslot => by
      rcases hthrough hw b hb with ⟨hold, hb⟩ | ⟨d', hd'⟩
      · exact h.elsewhere hold b x d hb hx hslot
      · exact (Env.here hslot hd').1
    covered := fun c d hslot htaken hheld => by
      rcases h.covered c d hslot htaken hheld with hs | ho | ho | ht
      · exact Or.inl (hstray hs)
      · exact Or.inr (Or.inl ho)
      · exact Or.inr (Or.inr (Or.inl ho))
      · exact (htakes c d hslot ht).imp_right fun ht => Or.inr (Or.inr ht) }

/-- A write that ends: what lease it leaves is sound, and every device that it had is covered. -/
theorem Sound.finish (h : Sound unitId e old held stray)
    (hkept : ∀ x, held' = some x → held = some x ∨
      Keeps unitId e.first x ∧ ∀ d, e.slot = some (x.binding, d) → x.on = d)
    (hown : ∀ c d, e.slot = some (c, d) → Own held c d → Own held' c d)
    (htakes : ∀ c d, e.slot = some (c, d) → (e.flags d).held = true → stray = true ∨ old.Takes c d →
      stray' = true ∨ Own held' c d) : Sound unitId e .idle held' stray' where
  kept x hx := hx.elim (fun hx => (hkept x hx).elim (fun hx => h.kept x (Or.inl hx)) And.left)
    fun hx => h.kept x (Or.inr hx)
  told x d hx hslot := hx.elim
    (fun hx => (hkept x hx).elim (fun hx => h.told x d (Or.inl hx) hslot) fun hx _ => hx.2 d hslot)
    fun hx => h.told x d (Or.inr hx) hslot
  known := trivial
  elsewhere := nofun
  flags := h.flags
  covered c d hslot htaken hheld := by
    have hends := fun hc => (htakes c d hslot hheld hc).imp_right (Or.inl (b := Own e.owed c d ∨ False))
    rcases h.covered c d hslot htaken hheld with hstray | ho | ho | hc
    · exact hends (Or.inl hstray)
    · exact Or.inr (Or.inl (hown c d hslot ho))
    · exact Or.inr (Or.inr (Or.inl ho))
    · exact hends (Or.inr hc)

/-- A write that ends and had no device. -/
theorem Sound.drop (h : Sound unitId e old held stray)
    (htakes : ∀ c d, e.slot = some (c, d) → (e.flags d).held = true → old.Takes c d → stray = true ∨ Own held c d) :
    Sound unitId e .idle held stray :=
  h.finish (fun _ => Or.inl) (fun _ _ _ => id) fun c d hslot hheld hc => hc.elim Or.inl (htakes c d hslot hheld)

/-- The agent drains its leases. -/
theorem Sound.drain (h : Sound unitId e stage held stray) (howed : e.owed = none) :
    Sound unitId { e with owed := held } stage none stray where
  kept x hx := h.kept x (Or.inl (hx.resolve_left nofun))
  told x d hx := h.told x d (Or.inl (hx.resolve_left nofun))
  known := h.known.mono (fun _ _ => id) fun _ _ _ hslot => ⟨hslot, rfl⟩
  elsewhere _ _ _ _ _ := nofun
  flags := h.flags
  covered c d hslot htaken hheld := by
    rcases h.covered c d hslot htaken hheld with hs | ho | ⟨x, hx, -⟩ | ht
    · exact Or.inl hs
    · exact Or.inr (Or.inr (Or.inl ho))
    · cases howed.symm.trans hx
    · exact Or.inr (Or.inr (Or.inr ht))

/-- The lease that the route owes is handed back, or given up. -/
theorem Sound.handBack {x : Held B D} {started current : Bool} (h : Sound unitId e .idle held stray)
    (howed : e.owed = some x) (hcurrent : ∀ d, e.slot = some (x.binding, d) → current = true) :
    Sound unitId { e with owed := none } (if started && current then .returning x else .idle) held
      (stray || (!started && current)) where
  kept y hy := h.kept y (Or.inl (hy.resolve_right nofun))
  told y d hy := h.told y d (Or.inl (hy.resolve_right nofun))
  known := by
    split
    · exact ⟨h.kept x (Or.inr howed), fun d hd => h.told x d (Or.inr howed) hd⟩
    · trivial
  elsewhere hw := by split at hw <;> cases hw
  flags := h.flags
  covered c d hslot htaken hheld := by
    rcases h.covered c d hslot htaken hheld with hs | ho | ⟨y, hy, rfl, rfl⟩ | ht
    · exact Or.inl (by rw [hs]; rfl)
    · exact Or.inr (Or.inl ho)
    · cases howed.symm.trans hy
      rw [hcurrent _ hslot]
      cases started with
      | false => exact Or.inl (Bool.or_true _)
      | true => exact Or.inr (Or.inr (Or.inr ⟨rfl, rfl⟩))
    · exact ht.elim

/-- A release reaches the device that answers. -/
theorem Sound.release [DecidableEq D] {x : Held B D} (h : Sound unitId e (.confirmed x) held stray)
    (hslot : e.slot = some (x.binding, d)) :
    Sound unitId { e with flags := Function.update e.flags d x.lease.release } .idle held stray := by
  obtain ⟨⟨-, before, hbefore, hrelease⟩, hon⟩ := h.known
  obtain rfl := hon d hslot
  have hself : Function.update e.flags x.on x.lease.release x.on = x.lease.release := Function.update_self _ _ _
  refine { h with
    known := trivial
    elsewhere := nofun
    flags := fun c d' first hs hfirst => ?_
    covered := fun c d' hs _ hheld => ?_ }
  · obtain ⟨rfl, rfl⟩ := Env.here hslot hs
    cases hbefore.symm.trans hfirst
    exact (congrArg RgbSwControl.release hself).trans (RgbSwControl.release_release.trans hrelease)
  · obtain ⟨-, rfl⟩ := Env.here hslot hs
    cases RgbSwControl.held_release.symm.trans ((congrArg RgbSwControl.held hself).symm.trans hheld)

/-- A write that failed, and puts back the flags that it read. -/
theorem Sound.restore [DecidableEq D] {previous : RgbSwControl} {took : Bool}
    (h : Sound unitId e (.failed c previous took) held stray) (hslot : e.slot = some (c, d)) :
    Sound unitId { e with flags := Function.update e.flags d previous } .idle held stray := by
  obtain ⟨hrelease, htook, hleft⟩ := h.known d hslot
  have hself : Function.update e.flags d previous d = previous := Function.update_self d _ _
  have hset : Sound unitId { e with flags := Function.update e.flags d previous } (.failed c previous took) held
      stray := by
    refine { h with
      known := fun d' hd' => ?_
      flags := fun c' d' before hs hfirst => ?_
      covered := fun c' d' hs htaken hheld => ?_ }
    · obtain ⟨-, rfl⟩ := Env.here hslot hd'
      exact ⟨congrArg RgbSwControl.release hself, htook, fun _ => hself⟩
    · obtain ⟨-, rfl⟩ := Env.here hslot hs
      exact (congrArg RgbSwControl.release hself).trans (hrelease.symm.trans (h.flags c' d' before hs hfirst))
    · obtain ⟨-, rfl⟩ := Env.here hslot hs
      refine h.covered c' d' hs htaken ?_
      have hheld' := (congrArg RgbSwControl.held hself).symm.trans hheld
      cases took with
      | true => cases hheld'.symm.trans (htook rfl)
      | false => exact hleft rfl ▸ hheld'
  refine hset.drop fun c' d' hs hheld htakes => ?_
  obtain ⟨-, rfl⟩ := Env.here hslot hs
  cases hheld.symm.trans ((congrArg RgbSwControl.held hself).trans (htook htakes.2))

/-! ## What a record does -/

section
variable [DecidableEq B] {lease : Held B D}

/-- A record keeps the lease of the unit that the write reached, taken through the same connection. -/
theorem record_cases (held : Option (Held B D)) (lease : Held B D) : record held lease = some lease ∨
    record held lease = held ∧ ∃ x, held = some x ∧ x.binding = lease.binding ∧
      x.lease.device = lease.lease.device := by
  unfold record
  by_cases hall : (held.all fun held => held.binding ≠ lease.binding || !lease.lease.continues held.lease) = true
  · exact Or.inl (if_pos hall)
  · refine Or.inr ⟨if_neg hall, ?_⟩
    cases held with
    | none => exact absurd rfl hall
    | some x =>
      rw [Option.all_some, Bool.or_eq_true, not_or, decide_eq_true_eq, not_not, Bool.not_eq_true',
        Bool.not_eq_false, RgbControlLease.continues, decide_eq_true_eq] at hall
      exact ⟨x, rfl, hall.1, hall.2.symm⟩

/-- After a record the device that answers has the lease that the write leaves, or the one that it had. -/
theorem Sound.own_record (h : Sound unitId e (.leased lease) held stray) (hslot : e.slot = some (c, d))
    (hown : Own held c d ∨ lease.binding = c) : Own (record held lease) c d := by
  obtain ⟨⟨hunit, -⟩, hon⟩ := h.known
  have hc : lease.binding = c := by
    rcases hown with ⟨x, hx, rfl, -⟩ | hc
    · exact h.elsewhere rfl _ x d rfl hx hslot
    · exact hc
  subst hc
  obtain rfl := hon d hslot
  rcases record_cases held lease with heq | ⟨heq, x, hx, hbinding, hdevice⟩
  · exact ⟨lease, heq, rfl, rfl⟩
  · exact ⟨x, heq.trans hx, hbinding, h.told x _ (Or.inl hx) (hbinding ▸ hslot) (hdevice.trans hunit)⟩

theorem Sound.record (h : Sound unitId e (.leased lease) held stray)
    (hstray : ∀ c d, e.slot = some (c, d) → c ≠ lease.binding → stray = true → stray' = true) :
    Sound unitId e .idle (record held lease) stray' := by
  obtain ⟨hkeeps, hon⟩ := h.known
  refine h.finish (fun x hx => ?_) (fun c d hslot ho => h.own_record hslot (Or.inl ho))
    fun c d hslot hheld hc => ?_
  · rcases record_cases held lease with heq | ⟨heq, -⟩
    · cases heq.symm.trans hx
      exact Or.inr ⟨hkeeps, fun d hslot => (hon d hslot).symm⟩
    · exact Or.inl (heq.symm.trans hx)
  · by_cases hbinding : lease.binding = c
    · exact Or.inr (h.own_record hslot (Or.inr hbinding))
    · exact hc.elim (fun hs => Or.inl (hstray c d hslot (Ne.symm hbinding) hs)) fun hc => absurd hc hbinding

end

/-! ## What a claim does -/

section
variable [DecidableEq B] [DecidableEq D] {unit : UnitId} {previous : RgbSwControl}

/-- What a route finds after a claim of the device that answers. -/
def Env.claimed (e : Env B D) (connection : B) (device : D) (previous : RgbSwControl) : Env B D :=
  { e with
    flags := Function.update e.flags device previous.claim
    first := Function.update e.first (connection, device)
      ((e.first (connection, device)).or (some (e.flags device)))
    taken := Function.update e.taken (connection, device)
      (e.taken (connection, device) || !(e.flags device).held) }

theorem Env.claimed_first (e : Env B D) (key : B × D) (before : RgbSwControl) (h : e.first key = some before) :
    (e.claimed c d previous).first key = some before := by
  by_cases hkey : key = (c, d)
  · rw [hkey] at h ⊢
    exact (Function.update_self _ _ _).trans (by rw [h]; rfl)
  · exact (Function.update_of_ne hkey _ _).trans h

/-- A claim that the device applied, in a write that goes on to paint or to fail. -/
theorem Sound.claim (h : Sound unitId e (.snapped c unit previous) held stray) (hslot : e.slot = some (c, d))
    (hafter : stage = .painting c unit previous d (!(e.flags d).held) ∨
      stage = .failed c previous (!(e.flags d).held)) :
    Sound unitId (e.claimed c d previous) stage held stray := by
  obtain ⟨hunit, hflags⟩ := h.known d hslot
  have hset : (e.claimed c d previous).flags d = previous.claim := Function.update_self d _ _
  obtain ⟨first, hfirst, hrelease⟩ : ∃ first, (e.claimed c d previous).first (c, d) = some first ∧
      previous.release = first.release := by
    cases hf : e.first (c, d) with
    | none => exact ⟨previous, (Function.update_self _ _ _).trans (by rw [hf, hflags]; rfl), rfl⟩
    | some before => exact ⟨before, e.claimed_first _ _ hf, hflags ▸ h.flags c d before hslot hf⟩
  refine ⟨fun x hx => (h.kept x hx).mono e.claimed_first, h.told, ?_, fun _ b x d' hb hx hs => ?_,
    fun c' d' before hs hbefore => ?_, fun c' d' hs htaken _ => ?_⟩
  · rcases hafter with rfl | rfl
    · refine ⟨⟨hunit, first, hfirst, hrelease⟩, by rw [hflags], fun d' hd' => ?_⟩
      obtain ⟨-, rfl⟩ := Env.here hslot hd'
      exact ⟨rfl, hset⟩
    · intro d' hd'
      obtain ⟨-, rfl⟩ := Env.here hslot hd'
      rw [hflags, Bool.not_eq_true', Bool.not_eq_false', hset]
      exact ⟨RgbSwControl.release_claim _, id, RgbSwControl.claim_of_held⟩
  · obtain ⟨hbinding, -⟩ := Env.here hslot hs
    rcases hafter with rfl | rfl <;> exact (Option.some.inj hb).symm.trans hbinding.symm
  · obtain ⟨rfl, rfl⟩ := Env.here hslot hs
    cases hfirst.symm.trans hbefore
    exact (congrArg RgbSwControl.release hset).trans ((RgbSwControl.release_claim _).trans hrelease)
  · obtain ⟨rfl, rfl⟩ := Env.here hslot hs
    by_cases hheld : (e.flags d').held = true
    · have htaken' : e.taken (c', d') = true := by
        have h' := (Function.update_self (c', d') _ _).symm.trans htaken
        rwa [hheld, Bool.not_true, Bool.or_false] at h'
      exact (h.covered c' d' hs htaken' hheld).imp_right (Or.imp_right (Or.imp_right False.elim))
    · have htook : (!(e.flags d').held) = true := by rw [Bool.eq_false_iff.2 hheld]; rfl
      rcases hafter with rfl | rfl <;> exact Or.inr (Or.inr (Or.inr ⟨rfl, htook⟩))

end

end

/-! ## The session -/

variable {s t : Session R B D} {route : R} {stage : Stage B D} {held : Option (Held B D)} {stray : Bool}

/-- What no write or release left stray is covered, once no write of the route runs. -/
theorem Inv.covered (h : Inv unitId s) (hwrites : (s.stage route).writes = false) (hstray : s.stray route = false) :
    Covered unitId s route := by
  intro c d first hslot hfirst htaken
  have hroute := h.sound route
  have hown : ∀ x, s.Leased route x → x.binding = c → x.on = d → Keeps unitId s.first x → ∃ held,
      s.Leased route held ∧ held.binding = c ∧ held.on = d ∧ held.lease.device = unitId d ∧
        held.lease.release = first.release ∧ (first.held = false → held.lease.release = first) := by
    rintro x hx rfl rfl ⟨hunit, flags, hat, hflags⟩
    cases hat.symm.trans hfirst
    exact ⟨x, hx, rfl, rfl, hunit, hflags, fun hfirm => hflags.trans (RgbSwControl.release_of_firmware hfirm)⟩
  cases hheld : (s.world.flags d).held with
  | false => exact Or.inl ((RgbSwControl.release_of_firmware hheld).symm.trans (hroute.flags c d first hslot hfirst))
  | true =>
    refine Or.inr ?_
    have hknown := hroute.known
    rcases hroute.covered c d hslot htaken hheld with hs | ⟨x, hx, hb, hon⟩ | ⟨x, hx, hb, hon⟩ | htakes
    · cases hstray.symm.trans hs
    · exact hown x (Or.inl hx) hb hon (hroute.kept x (Or.inl hx))
    · exact hown x (Or.inr (Or.inl hx)) hb hon (hroute.kept x (Or.inr hx))
    · cases hstage : s.stage route with
      | returning x | confirmed x =>
        rw [hstage] at hknown htakes
        exact hown x (by simp [Session.Leased, hstage]) htakes.1 htakes.2 hknown.1
      | idle | resolved | identified | snapped => rw [hstage] at htakes; exact htakes.elim
      | painting | leased | failed => rw [hstage] at hwrites; cases hwrites

/-- The devices behind the other routes have the flags that they had. -/
def Session.Spares (s : Session R B D) (route : R) (flags : D → RgbSwControl) : Prop :=
  ∀ other c d, other ≠ route → s.world.slots other = some (c, d) → flags d = s.world.flags d

theorem Session.spares_update [DecidableEq D] {c : B} {d : D} (hslot : s.world.slots route = some (c, d))
    (flags : RgbSwControl) : s.Spares route (Function.update s.world.flags d flags) :=
  fun _ _ _ hne hother => Function.update_of_ne (World.other_device hslot hne hother) _ _

variable [DecidableEq R]

/-- An event that changes what the routes find, and of one route what it has. -/
theorem Inv.put (h : Inv unitId s) (hsent : ∀ pair ∈ t.sent, pair.1 = pair.2)
    (hother : ∀ other, other ≠ route → Same (s.env other) (t.env other) ∧ t.stage other = s.stage other ∧
      t.held other = s.held other ∧ t.stray other = s.stray other)
    (hroute : Sound unitId (t.env route) stage held stray) : Inv unitId (t.put route stage held stray) where
  sound other := by
    by_cases hne : other = route
    · subst hne
      simp only [Session.put, Function.update_self]
      exact hroute
    · obtain ⟨hsame, hstage, hheld, hstray⟩ := hother other hne
      simp only [Session.put, Function.update_of_ne hne, hstage, hheld, hstray]
      exact (h.sound other).same hsame
  sent := hsent

theorem Inv.goes (h : Inv unitId s) (hroute : Sound unitId (s.env route) stage held stray) :
    Inv unitId (s.put route stage held stray) :=
  h.put h.sent (fun _ _ => ⟨.flags fun _ _ _ => rfl, rfl, rfl, rfl⟩) hroute

/-- The write of a route ends, with other flags of the device that answers perhaps. -/
theorem Inv.finish (h : Inv unitId s) {flags : D → RgbSwControl} (hflags : s.Spares route flags)
    (hroute : Sound unitId { s.env route with flags := flags } .idle held stray) :
    Inv unitId ({ s with world := { s.world with flags := flags } }.finish route held stray) :=
  h.put h.sent (fun other hne => ⟨.flags fun c d => hflags other c d hne, rfl, rfl, rfl⟩) hroute

theorem Inv.over (h : Inv unitId s) (hroute : Sound unitId (s.env route) .idle held stray) :
    Inv unitId (s.finish route held stray) := h.finish (fun _ _ _ _ _ => rfl) hroute

variable [DecidableEq D]

/-- What comes to a route: the other routes keep their devices or lose them. -/
theorem Inv.place (h : Inv unitId s) {next : Option (B × D)} {flags : RgbSwControl}
    (hnext : ∀ c d, next = some (c, d) → Clean unitId s route c d flags) :
    Inv unitId ({ s with world := s.world.place route next flags }.put route (s.stage route) (s.held route) false) := by
  have hroute := h.sound route
  have hhere : (s.world.place route next flags).slots route = next := if_pos rfl
  have hflags : ∀ {d}, next.map Prod.snd ≠ some d → (s.world.place route next flags).flags d = s.world.flags d := by
    intro d hd
    cases next with
    | none => rfl
    | some slot => exact Function.update_of_ne (fun heq => hd (congrArg some heq.symm)) _ _
  have hcomes : ∀ {c d}, next = some (c, d) → (s.world.place route next flags).flags d = flags := by
    rintro c d rfl
    exact Function.update_self d _ _
  refine h.put h.sent (fun other hne => ⟨⟨rfl, fun _ _ => id, fun c d hs => ?_⟩, rfl, rfl, rfl⟩) ⟨hroute.kept,
    fun x d hx hs => ?_, ?_, fun hw b x d hb hx hs => ?_, fun c d before hs hfirst => ?_,
    fun c d hs htaken hheld => ?_⟩
  · obtain ⟨hs, hout⟩ := s.world.placed_other hne hs
    exact ⟨hs, hflags hout, rfl, rfl⟩
  · exact (hnext _ d (hhere.symm.trans hs)).told x hx rfl
  · refine hroute.known.mono (fun _ _ => id) fun c d hc hs => ?_
    exact absurd rfl ((hnext c d (hhere.symm.trans hs)).quiet c hc).1
  · exact absurd rfl (((hnext _ d (hhere.symm.trans hs)).quiet b hb).2 hw x hx)
  · have hs' := hhere.symm.trans hs
    exact (congrArg RgbSwControl.release (hcomes hs')).trans ((hnext c d hs').before before hfirst)
  · have hs' := hhere.symm.trans hs
    exact Or.inr (((hnext c d hs').back htaken ((congrArg RgbSwControl.held (hcomes hs')).symm.trans hheld)).imp_right
      Or.inl)

variable [DecidableEq B]

/-- A claim that the device applied. -/
theorem Inv.claim (h : Inv unitId s) {c : B} {unit : UnitId} {previous : RgbSwControl} {d : D}
    (hstage : s.stage route = .snapped c unit previous) (hanswers : s.world.answers route c = some d)
    (hafter : stage = .painting c unit previous d (!(s.world.flags d).held) ∨
      stage = .failed c previous (!(s.world.flags d).held)) :
    Inv unitId ((s.claimed c d previous).proceed route stage) := by
  have hroute := h.sound route
  rw [hstage] at hroute
  have hslot := World.answers_eq_some.1 hanswers
  refine h.put h.sent (fun other hne => ⟨⟨rfl, (s.env other).claimed_first, fun c' d' hd' => ?_⟩, rfl, rfl,
    rfl⟩) (hroute.claim hslot hafter)
  have hd := World.other_device hslot hne hd'
  have hkey : (c', d') ≠ (c, d) := fun heq => hd (congrArg Prod.snd heq)
  exact ⟨hd', Function.update_of_ne hd _ _, Function.update_of_ne hkey _ _, Function.update_of_ne hkey _ _⟩

omit [DecidableEq D] [DecidableEq B] in
/-- The other routes owe what they owed. -/
theorem Session.owes_settle {other : R} (hne : other ≠ route) : (s.settle route).owes other = s.owes other := by
  unfold Session.owes Session.settle
  cases s.owed with
  | none => rfl
  | some owed => exact Function.update_of_ne hne _ _

omit [DecidableEq D] [DecidableEq B] in
theorem Session.settle_owes : (s.settle route).owes route = none := by
  unfold Session.owes Session.settle
  cases s.owed with
  | none => rfl
  | some owed => exact Function.update_self route _ _

variable {x : Held B D}

omit [DecidableEq D] in
theorem Inv.handBack (h : Inv unitId s) (started : Bool) (hstage : s.stage route = .idle)
    (howes : s.owes route = some x) :
    Inv unitId ((s.settle route).put route
      (if started && (s.world.answers route x.binding).isSome then .returning x else .idle) (s.held route)
      (s.stray route || (!started && (s.world.answers route x.binding).isSome))) := by
  have hroute := h.sound route
  rw [hstage] at hroute
  refine h.put h.sent (fun other hne => ⟨⟨s.owes_settle hne, fun _ _ => id, fun _ _ hs => ⟨hs, rfl, rfl, rfl⟩⟩,
    rfl, rfl, rfl⟩) ?_
  have henv : (s.settle route).env route = { s.env route with owed := none } := by
    rw [← (s.settle_owes : (s.settle route).owes route = none)]
    rfl
  rw [henv]
  exact hroute.handBack howes fun d hd => by rw [World.answers_eq_some.2 hd]; rfl

omit [DecidableEq D] in
/-- The release reads which unit answers. -/
theorem Inv.confirm (h : Inv unitId s) {d : D} (read : Bool) (hstage : s.stage route = .returning x)
    (hanswers : s.world.answers route x.binding = some d) :
    Inv unitId (s.put route (if (read && unitId d = x.lease.device) then .confirmed x else .idle) (s.held route)
      (s.stray route || !read)) := by
  have hroute := h.sound route
  rw [hstage] at hroute
  obtain ⟨hkeeps, hon⟩ := hroute.known
  have hslot := World.answers_eq_some.1 hanswers
  refine h.goes (hroute.proceed ?_ (fun hw => by split at hw <;> cases hw) (fun c d' hs ht => ?_)
    fun hs => by rw [hs]; rfl)
  · split
    · case isTrue htold =>
      refine ⟨hkeeps, fun d' hd' => hon d' hd' ?_⟩
      obtain ⟨-, rfl⟩ := Env.here hslot hd'
      exact (of_decide_eq_true (Bool.and_eq_true_iff.1 htold).2).symm
    · trivial
  · obtain ⟨rfl, rfl⟩ := ht
    obtain ⟨-, rfl⟩ := Env.here hslot hs
    cases read with
    | false => exact Or.inl (Bool.or_true _)
    | true => exact Or.inr (by rw [hkeeps.1, Bool.true_and, decide_eq_true rfl]; exact ⟨rfl, rfl⟩)

/-- A release is sent to the device that answers, which is the one of its lease. -/
theorem Inv.release (h : Inv unitId s) {d : D} (applied : Bool) (hstage : s.stage route = .confirmed x)
    (hanswers : s.world.answers route x.binding = some d) :
    Inv unitId ({ s with
      world := if applied then s.world.set d x.lease.release else s.world
      sent := (x.on, d) :: s.sent }.put route .idle (s.held route) (s.stray route || !applied)) := by
  have hroute := h.sound route
  rw [hstage] at hroute
  have hslot := World.answers_eq_some.1 hanswers
  have hsent : ∀ pair ∈ (x.on, d) :: s.sent, pair.1 = pair.2 := fun pair hpair => by
    rcases List.mem_cons.1 hpair with rfl | hpair
    · exact hroute.known.2 d hslot
    · exact h.sent pair hpair
  cases applied with
  | false =>
    refine h.put hsent (fun _ _ => ⟨.flags fun _ _ _ => rfl, rfl, rfl, rfl⟩) ?_
    exact hroute.proceed trivial nofun (fun _ _ _ _ => Or.inl (Bool.or_true _)) fun hs => by rw [hs]; rfl
  | true =>
    refine h.put hsent (fun other hne => ⟨.flags fun c' d' => s.spares_update hslot _ other c' d' hne, rfl, rfl,
      rfl⟩) ?_
    rw [Bool.not_true, Bool.or_false]
    exact hroute.release hslot

theorem Inv.advance (h : Inv unitId s) {turn : Turn} (hstage : s.stage route = stage)
    (hs : s.advance unitId route stage turn = some t) : Inv unitId t := by
  have hroute := h.sound route
  rw [hstage] at hroute
  -- nothing answers through the connection: the write or the release ends with no device
  have hgone : ∀ {c}, s.world.answers route c = none → (∀ c' d, stage.Takes c' d → c' = c) →
      Sound unitId (s.env route) .idle (s.held route) (s.stray route) := fun hnone hconnection =>
    hroute.drop fun c' d hslot _ htakes => by
      obtain rfl := hconnection c' d htakes
      cases (World.answers_eq_some.2 hslot).symm.trans hnone
  -- a write goes on through the connection that it has
  have hgoes : ∀ {next : Stage B D}, Known unitId (s.env route) next →
      (next.writes = true → stage.writes = true ∧ next.through = stage.through) →
      (∀ c d, s.world.slots route = some (c, d) → stage.Takes c d → next.Takes c d) →
      Inv unitId (s.proceed route next) := fun hknown hthrough htakes =>
    h.goes (hroute.proceed hknown (fun hw b hb => Or.inl ⟨(hthrough hw).1, (hthrough hw).2 ▸ hb⟩)
      (fun c d hd ht => Or.inr (htakes c d hd ht)) id)
  unfold Session.advance at hs
  split at hs
  case h_1 =>
    rw [Option.ite_none_right_eq_some] at hs
    obtain ⟨-, hs⟩ := hs
    split at hs <;> cases hs
    · exact h.goes (hroute.proceed trivial (fun _ => nofun) (fun _ _ _ => False.elim) id)
    · exact h.over (hroute.drop nofun)
  case h_2 c read =>
    split at hs <;> cases hs
    · case h_1 d hanswers =>
      have hslot := World.answers_eq_some.1 hanswers
      refine h.goes (hroute.proceed (fun d' hd' => ?_) (fun _ b hb => Or.inr ⟨d, ?_⟩) (fun _ _ _ => False.elim) id)
      · obtain ⟨-, rfl⟩ := Env.here hslot hd'
        rfl
      · cases hb
        exact hslot
    · exact h.over (hroute.drop nofun)
  case h_3 c unit read =>
    split at hs <;> cases hs
    · case h_1 d hanswers =>
      refine hgoes (fun d' hd' => ⟨hroute.known d' hd', ?_⟩) (fun _ => ⟨rfl, rfl⟩) fun _ _ _ => False.elim
      obtain ⟨-, rfl⟩ := Env.here (World.answers_eq_some.1 hanswers) hd'
      rfl
    · exact h.over (hroute.drop nofun)
  case h_4 c unit previous sent =>
    split at hs <;> cases hs
    · exact h.over (hroute.drop nofun)
    · case h_2 d hanswers => exact h.claim hstage hanswers (Or.inl rfl)
    · case h_3 d hanswers => exact h.claim hstage hanswers (Or.inr rfl)
    · refine hgoes (fun d hd => ?_) (fun _ => ⟨rfl, rfl⟩) fun _ _ _ => False.elim
      obtain ⟨-, rfl⟩ := hroute.known d hd
      exact ⟨rfl, nofun, fun _ => rfl⟩
  case h_5 c unit previous on took painted =>
    obtain ⟨hkeeps, htook, hon⟩ := hroute.known
    split at hs <;> cases hs
    · exact hgoes ⟨hkeeps, fun d hd => (hon d hd).1⟩ (fun _ => ⟨rfl, rfl⟩) fun _ _ _ ht => ht.1
    · refine hgoes (fun d hd => ?_) (fun _ => ⟨rfl, rfl⟩) fun _ _ _ => id
      obtain ⟨rfl, hflags⟩ := hon d hd
      rw [hflags, htook, Bool.not_eq_true', Bool.not_eq_false']
      exact ⟨RgbSwControl.release_claim _, id, RgbSwControl.claim_of_held⟩
  case h_6 lease =>
    cases hs
    refine h.over (hroute.record fun c d hslot hne hstray => ?_)
    rw [hstray, Bool.true_and, Option.isNone_iff_eq_none, Option.eq_none_iff_forall_ne_some]
    exact fun d' hd' => hne (Env.here (World.answers_eq_some.1 hd') hslot).1
  case h_7 c previous took applied =>
    split at hs
    · case h_1 d hanswers =>
      have hslot := World.answers_eq_some.1 hanswers
      split at hs <;> cases hs
      · exact h.finish (s.spares_update hslot previous) (hroute.restore hslot)
      · refine h.over (hroute.finish (fun _ => Or.inl) (fun _ _ _ => id) fun _ _ _ _ hc => ?_)
        exact Or.inl (Bool.or_eq_true_iff.2 (hc.imp_right And.right))
    · case h_2 hanswers =>
      cases hs
      exact h.over (hgone hanswers fun _ _ ht => ht.1.symm)
  case h_8 started =>
    split at hs <;> cases hs
    case h_1 x howes => exact h.handBack started hstage howes
  case h_9 x read =>
    split at hs <;> cases hs
    · case h_1 d hanswers => exact h.confirm read hstage hanswers
    · case h_2 hanswers => exact h.goes (hgone hanswers fun _ _ ht => ht.1.symm)
  case h_10 x applied =>
    split at hs <;> cases hs
    · case h_1 d hanswers => exact h.release applied hstage hanswers
    · case h_2 hanswers => exact h.goes (hgone hanswers fun _ _ ht => ht.1.symm)
  case h_11 => cases hs

theorem Inv.step (h : Inv unitId s) {e : Event R B D} (hm : Meets unitId s e) (hs : s.step unitId e = some s') :
    Inv unitId s' := by
  cases e with
  | admitWrite route | giveUp route =>
    simp only [Session.step] at hs
    split at hs <;> cases hs
    exact ⟨h.sound, h.sent⟩
  | turn route turn => exact h.advance rfl hs
  | close =>
    cases hs
    exact ⟨h.sound, h.sent⟩
  | drain =>
    simp only [Session.step] at hs
    split at hs
    · case h_1 howed =>
      split at hs <;> cases hs
      exact ⟨fun route => (h.sound route).drain (by show s.owed.bind _ = none; rw [howed]; rfl), h.sent⟩
    · cases hs
  | place route next flags =>
    cases hs
    refine h.place fun c d hnext => ?_
    subst hnext
    exact hm

/-- A write of a device that came, which goes and comes back in the agent's hands; a second write is still waiting when
the agent leaves and drains its leases. -/
def leftAtDeadline : List (Event Unit Unit Unit) :=
  [.place () none ⟨0, 0⟩, .place () (some ((), ())) ⟨0, 0⟩, .admitWrite (), .turn () .begin, .turn () (.identify true),
    .turn () (.snapshot true), .turn () (.claim .answered), .turn () (.paint true), .turn () .record,
    .place () none ⟨0, 0⟩, .place () (some ((), ())) ⟨1, 0⟩, .admitWrite (), .close, .drain]

def handedBack : List (Event Unit Unit Unit) :=
  leftAtDeadline ++ [.turn () (.handBack true), .turn () (.confirm true), .turn () (.release true)]

end Rgb
end OpenLogi
