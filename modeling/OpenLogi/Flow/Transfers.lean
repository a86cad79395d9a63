import OpenLogi.Flow.Handoff
/-!
# Transfers — the receiver's ledger over whole runs

A run is any list of calls; each leaves a record of what was asked, what was answered and the ledger after it.  What
becomes of an armed transfer is read off the records that follow it.
-/
namespace OpenLogi
namespace Flow
namespace Handoff

open OpenLogi.Core (PhysicalDeviceKey)
open OpenLogi.Scroll (F64)

variable {F : Type}

inductive Call (F : Type) where
  | arm (peer : PublicKey) (request : HandoffRequest F) (devices : LocalDevices) (now : Nat)
  | observe (devices : LocalDevices) (now : Nat)
  | expire (now : Nat)
  | cancel (peer : PublicKey) (transferId : UInt64)

/-- The instant a call is given; a cancel is given none. -/
def Call.now : Call F → Option Nat
  | .arm _ _ _ now | .observe _ now | .expire now => some now
  | .cancel _ _ => none

inductive Answer (F : Type) where
  | arm (decision : ArmDecision)
  | observe (observation : Observation F)
  | expire (completed : Option CompletedTransfer)
  | cancel (outcome : CancelOutcome)

/-- The transfer a call finished and gave out, to be told to its sender. -/
def Answer.completed : Answer F → Option CompletedTransfer
  | .observe observation => observation.completed
  | .expire completed => completed
  | _ => none

structure Record (F : Type) where
  call : Call F
  answer : Answer F
  after : IncomingLedger F

def CompletedTransfer.transfer (done : CompletedTransfer) : Transfer := (done.peer, done.result.transferId)

namespace Record

/-- The transfer a call armed. -/
def arms (r : Record F) : Option Transfer :=
  match r.call, r.answer with
  | .arm peer request _ _, .arm (.armed _) => some (peer, request.transferId)
  | _, _ => none

/-- The transfer a call finished, and how. -/
def settles (r : Record F) : Option (Transfer × HandoffOutcome) :=
  match r.call, r.answer with
  | .cancel peer transferId, .cancel .disarmed => some ((peer, transferId), .cancelled)
  | _, answer => answer.completed.map fun done => (done.transfer, done.result.outcome)

/-- The result a call gave out to be sent. -/
def reports (r : Record F) : Option HandoffResult := r.answer.completed.map CompletedTransfer.result

/-- Whether a call showed the device of this key online. -/
def sees (r : Record F) (key : PhysicalDeviceKey) : Bool :=
  match r.call with
  | .observe devices _ => devices.connected key
  | _ => false

end Record

def seen (views : List (Record F)) (key : PhysicalDeviceKey) : Bool := views.any fun r => r.sees key

/-- How a transfer was finished, in the records up to the next that arms it again. -/
def settlements (transfer : Transfer) : List (Record F) → List HandoffOutcome
  | [] => []
  | r :: rs =>
    if r.arms = some transfer then []
    else
      match r.settles with
      | some (t, outcome) => if t = transfer then outcome :: settlements transfer rs else settlements transfer rs
      | none => settlements transfer rs

section
variable [F64 F] (enabled : Bool)

def IncomingLedger.handle (l : IncomingLedger F) : Call F → Answer F × IncomingLedger F
  | .arm peer request devices now =>
    let (decision, l) := l.arm peer request devices enabled now
    (.arm decision, l)
  | .observe devices now =>
    let (observation, l) := l.observe devices now
    (.observe observation, l)
  | .expire now =>
    let (completed, l) := l.expire now
    (.expire completed, l)
  | .cancel peer transferId =>
    let (outcome, l) := l.cancel peer transferId
    (.cancel outcome, l)

def turn (l : IncomingLedger F) (call : Call F) : Record F :=
  ⟨call, (l.handle enabled call).1, (l.handle enabled call).2⟩

def records : IncomingLedger F → List (Call F) → List (Record F)
  | _, [] => []
  | l, call :: calls => turn enabled l call :: records (turn enabled l call).after calls

def ledgerAfter : IncomingLedger F → List (Call F) → IncomingLedger F
  | l, [] => l
  | l, call :: calls => ledgerAfter (turn enabled l call).after calls

end

/-! ## One call -/

/-- A pending transfer once a call has been taken. -/
def PendingIncoming.through (pending : PendingIncoming F) : Call F → PendingIncoming F
  | .observe devices now => pending.observed devices now
  | _ => pending

/-- Why a pending transfer is finished at a call. -/
inductive Decided (pending : PendingIncoming F) : Call F → HandoffOutcome → Prop where
  | arrived (devices : LocalDevices) (now : Nat) (h : (pending.observed devices now).allArrived = true) :
    Decided pending (.observe devices now) .arrived
  | partialArrival (now : Nat) (hdue : pending.deadline ≤ now) (h : pending.anyArrived = true) :
    Decided pending (.expire now) .partialArrival
  | timeout (now : Nat) (hdue : pending.deadline ≤ now) (h : pending.anyArrived = false) :
    Decided pending (.expire now) .timeout
  | cancelled (h : pending.anyArrived = false) :
    Decided pending (.cancel pending.peer pending.transferId) .cancelled

/-- The transfer a call arms. -/
def fresh (peer : PublicKey) (transferId : UInt64) (entry : EntryPoint F) (devices : List PendingDevice) (now : Nat) :
    PendingIncoming F :=
  ⟨peer, transferId, entry, devices, now, now + armTimeout, false⟩

/-- What one call can do: arm a transfer, finish the pending one, or neither. -/
inductive Step [F64 F] (enabled : Bool) (l : IncomingLedger F) (r : Record F) : Prop where
  | quiet (harms : r.arms = none) (hsettles : r.settles = none)
    (hafter : r.after = { l with pending := l.pending.map fun pending => pending.through r.call })
    (hopen : ∀ pending ∈ l.pending, pending.allArrived = false → (pending.through r.call).allArrived = false)
    (hdue : ∀ pending ∈ l.pending, ∀ now, r.call = .expire now → now < pending.deadline)
  | armed (peer : PublicKey) (request : HandoffRequest F) (devices : LocalDevices) (now : Nat) (entry : EntryPoint F)
    (found : List PendingDevice) (hcall : r.call = .arm peer request devices now)
    (harms : r.arms = some (peer, request.transferId)) (hsettles : r.settles = none) (henabled : enabled = true)
    (hwell : request.wellFormed = true) (hpending : l.pending = none)
    (hnew : l.completed (peer, request.transferId) = none)
    (hfound : matchDevices devices [] request.devices = .ok found)
    (hafter : r.after = { l with pending := some (fresh peer request.transferId entry found now) })
  | settled (pending : PendingIncoming F) (outcome : HandoffOutcome) (hpending : l.pending = some pending)
    (harms : r.arms = none) (hsettles : r.settles = some (pending.transfer, outcome))
    (hreports : ∀ result ∈ r.reports, result = (pending.through r.call).result outcome)
    (hafter : r.after = (l.finish (pending.through r.call) outcome).2) (hdecided : Decided pending r.call outcome)

variable {l : IncomingLedger F} {log : List (Transfer × CompletedIncoming)} {pending : PendingIncoming F}
  {keys : List PhysicalDeviceKey} {views : List (Record F)} {outcome : HandoffOutcome}

theorem map_through_of_eq {call : Call F} (h : ∀ p : PendingIncoming F, p.through call = p) :
    l = { l with pending := l.pending.map fun pending => pending.through call } := by
  simp only [h]
  cases l
  simp

/-- **What one call does to the ledger.** -/
theorem turn_step [F64 F] (enabled : Bool) (l : IncomingLedger F) (call : Call F) :
    Step enabled l (turn enabled l call) := by
  cases call with
  | arm peer request devices now =>
    rcases l.arm_cases peer request devices enabled now with
      ⟨entry, found, henabled, hwell, hpending, hnew, hfound, heq⟩ | ⟨harmed, hsame⟩
    · have hturn : turn enabled l (.arm peer request devices now) =
          ⟨.arm peer request devices now, .arm (.armed (accept request.transferId armTimeout)),
            { l with pending := some (fresh peer request.transferId entry found now) }⟩ := by
        simp only [turn, IncomingLedger.handle, heq, fresh]
      rw [hturn]
      exact .armed peer request devices now entry found rfl rfl rfl henabled hwell hpending hnew hfound rfl
    · have harms : (turn enabled l (.arm peer request devices now)).arms = none := by
        simp only [turn, IncomingLedger.handle, Record.arms]
        split
        · rename_i a hcall hanswer
          exact absurd (by simpa using hanswer) (harmed _)
        · rfl
      have hafter : (turn enabled l (.arm peer request devices now)).after = l := hsame
      refine .quiet harms rfl ?_ (fun _ _ h => h) (fun _ _ _ h => (by cases h))
      rw [hafter]
      exact map_through_of_eq fun _ => rfl
  | observe devices now =>
    cases hp : l.pending with
    | none =>
      have hturn : turn enabled l (.observe devices now) =
          ⟨.observe devices now, .observe ⟨none, none⟩, l⟩ := by
        simp only [turn, IncomingLedger.handle, IncomingLedger.observe_none hp]
      rw [hturn]
      refine .quiet rfl rfl ?_ (fun _ h => (by rw [hp] at h; cases h)) (fun _ _ _ h => (by cases h))
      cases l
      cases hp
      rfl
    | some pending =>
      obtain ⟨entry, heq⟩ := IncomingLedger.observe_some hp devices now
      by_cases hall : (pending.observed devices now).allArrived = true
      · rw [if_pos hall] at heq
        have hturn : turn enabled l (.observe devices now) = ⟨.observe devices now,
            .observe ⟨entry, some ⟨pending.peer, (pending.observed devices now).result .arrived⟩⟩,
            (l.finish (pending.observed devices now) .arrived).2⟩ := by
          simp only [turn, IncomingLedger.handle, heq]
        rw [hturn]
        exact .settled pending .arrived hp rfl rfl (fun _ h => (Option.some.inj h).symm) rfl (.arrived devices now hall)
      · rw [if_neg hall] at heq
        have hturn : turn enabled l (.observe devices now) = ⟨.observe devices now, .observe ⟨entry, none⟩,
            { l with pending := some (pending.observed devices now) }⟩ := by
          simp only [turn, IncomingLedger.handle, heq]
        rw [hturn]
        refine .quiet rfl rfl (by rw [hp]; rfl) (fun p h _ => ?_) (fun _ _ _ h => (by cases h))
        rw [hp] at h
        obtain rfl := Option.some.inj h
        show (pending.observed devices now).allArrived = false
        simpa using hall
  | expire now =>
    cases hp : l.pending with
    | none =>
      have hturn : turn enabled l (.expire now) = ⟨.expire now, .expire none, l⟩ := by
        simp only [turn, IncomingLedger.handle, IncomingLedger.expire_none hp]
      rw [hturn]
      exact .quiet rfl rfl (map_through_of_eq fun _ => rfl) (fun _ _ h => h) (fun _ h => (by rw [hp] at h; cases h))
    | some pending =>
      have heq := IncomingLedger.expire_some hp now
      by_cases hdue : now < pending.deadline
      · rw [if_pos hdue] at heq
        have hturn : turn enabled l (.expire now) = ⟨.expire now, .expire none, l⟩ := by
          simp only [turn, IncomingLedger.handle, heq]
        rw [hturn]
        refine .quiet rfl rfl (map_through_of_eq fun _ => rfl) (fun _ _ h => h) (fun p h now' hcall => ?_)
        rw [hp] at h
        obtain rfl := Option.some.inj h
        cases hcall
        exact hdue
      · rw [if_neg hdue] at heq
        have hdecided : Decided pending (.expire now) (if pending.anyArrived then .partialArrival else .timeout) := by
          by_cases hany : pending.anyArrived = true
          · rw [if_pos hany]
            exact .partialArrival now (by omega) hany
          · rw [if_neg hany]
            exact .timeout now (by omega) (by simpa using hany)
        generalize (if pending.anyArrived then .partialArrival else .timeout : HandoffOutcome) = outcome at heq hdecided
        have hturn : turn enabled l (.expire now) = ⟨.expire now,
            .expire (some ⟨pending.peer, pending.result outcome⟩), (l.finish pending outcome).2⟩ := by
          simp only [turn, IncomingLedger.handle, heq]
        rw [hturn]
        exact .settled pending outcome hp rfl rfl (fun _ h => (Option.some.inj h).symm) rfl hdecided
  | cancel peer transferId =>
    rcases l.cancel_cases peer transferId with ⟨pending, hp, htransfer, hany, heq⟩ | ⟨hne, hsame⟩
    · have hpeer : pending.peer = peer := congrArg Prod.fst htransfer
      have hid : pending.transferId = transferId := congrArg Prod.snd htransfer
      subst hpeer hid
      have hturn : turn enabled l (.cancel pending.peer pending.transferId) =
          ⟨.cancel pending.peer pending.transferId, .cancel .disarmed, (l.finish pending .cancelled).2⟩ := by
        simp only [turn, IncomingLedger.handle, heq]
      rw [hturn]
      exact .settled pending .cancelled hp rfl rfl (fun _ h => (by cases h)) rfl (.cancelled hany)
    · have hsettles : (turn enabled l (.cancel peer transferId)).settles = none := by
        simp only [turn, IncomingLedger.handle, Record.settles]
        split
        · rename_i hcall hanswer
          exact absurd (by simpa using hanswer) hne
        · rfl
      have hafter : (turn enabled l (.cancel peer transferId)).after = l := hsame
      refine .quiet rfl hsettles ?_ (fun _ _ h => h) (fun _ _ _ h => (by cases h))
      rw [hafter]
      exact map_through_of_eq fun _ => rfl

/-! ## The invariant -/

@[simp] theorem through_transfer (pending : PendingIncoming F) (call : Call F) :
    (pending.through call).transfer = pending.transfer := by
  cases call <;> rfl

@[simp] theorem through_deadline (pending : PendingIncoming F) (call : Call F) :
    (pending.through call).deadline = pending.deadline := by
  cases call <;> rfl

theorem through_statuses (pending : PendingIncoming F) (r : Record F) :
    (pending.through r.call).statuses =
      pending.statuses.map fun status => (status.1, status.2 || r.sees status.1) := by
  unfold Record.sees
  cases r.call with
  | observe devices now => exact pending.observed_statuses devices now
  | arm => simp [PendingIncoming.through]
  | expire => simp [PendingIncoming.through]
  | cancel => simp [PendingIncoming.through]

/-- The devices of a transfer that was just armed: none has arrived. -/
theorem fresh_statuses {devices : LocalDevices} {requested : List DeviceIdentity} {found : List PendingDevice}
    (h : matchDevices devices [] requested = .ok found) (peer : PublicKey) (transferId : UInt64) (entry : EntryPoint F)
    (now : Nat) : (fresh peer transferId entry found now).statuses =
      (found.map PendingDevice.key).map fun key => (key, false) := by
  obtain ⟨new, rfl, -, hnone⟩ := matchDevices_ok h
  simp only [fresh, PendingIncoming.statuses, List.map_map]
  refine List.map_congr_left fun device hd => ?_
  simp [hnone device hd]

theorem matched_ne_nil {devices : LocalDevices} [F64 F] {request : HandoffRequest F} {found : List PendingDevice}
    (hwell : request.wellFormed = true) (h : matchDevices devices [] request.devices = .ok found) : found ≠ [] := by
  obtain ⟨new, rfl, hlen, -⟩ := matchDevices_ok h
  intro hnil
  rw [hnil, List.length_nil, eq_comm, List.length_eq_zero_iff] at hlen
  simp [HandoffRequest.wellFormed, hlen] at hwell

/-- What a call adds to the finished transfers: the one it finished, as the ledger remembers it. -/
def Record.finished (r : Record F) : List (Transfer × CompletedIncoming) :=
  match r.settles with
  | some (transfer, _) => (r.after.completed transfer).toList.map fun done => (transfer, done)
  | none => []

/-- A ledger that has finished the transfers of `log`. -/
structure Sound (l : IncomingLedger F) (log : List (Transfer × CompletedIncoming)) : Prop where
  opens : ∀ pending ∈ l.pending, pending.allArrived = false
  unknown : ∀ pending ∈ l.pending, pending.transfer ∉ l.completionOrder
  recent : l.memory.Recent completedLimit log

theorem sound_empty : Sound (IncomingLedger.empty : IncomingLedger F) [] :=
  ⟨fun _ h => (by cases h), fun _ h => (by cases h), Lib.Memory.recent_empty _⟩

theorem Sound.kept (h : Sound l log) :
    l.memory.Kept completedLimit := h.recent.kept

/-- What finishing a transfer remembers. -/
theorem Sound.finish (h : Sound l log) {p : PendingIncoming F} (hp : l.pending = some pending)
    (htransfer : p.transfer = pending.transfer) (outcome : HandoffOutcome) :
    (l.finish p outcome).2.completed pending.transfer = some ⟨accept p.transferId 0, p.result outcome⟩ ∧
    Sound (l.finish p outcome).2 (log ++ [(pending.transfer, ⟨accept p.transferId 0, p.result outcome⟩)]) := by
  have hrecent : (l.finish p outcome).2.memory.Recent completedLimit
      (log ++ [(pending.transfer, ⟨accept p.transferId 0, p.result outcome⟩)]) := by
    rw [IncomingLedger.finish_memory, htransfer]
    exact h.recent.remember (by decide) (h.unknown pending hp) _
  have hnone := l.finish_pending p outcome
  refine ⟨(hrecent.entries _ _).2 (Lib.mem_lastOf_concat (by decide) _ _), fun q hq => ?_, fun q hq => ?_, hrecent⟩
  · rw [hnone] at hq
    cases hq
  · rw [hnone] at hq
    cases hq

/-- **Every call keeps the invariant.** -/
theorem Sound.step [F64 F] {enabled : Bool} (h : Sound l log) {r : Record F} (hstep : Step enabled l r) :
    Sound r.after (log ++ r.finished) := by
  cases hstep with
  | quiet harms hsettles hafter hopen hdue =>
    have hnothing : r.finished = [] := by rw [Record.finished, hsettles]
    rw [hnothing, List.append_nil, hafter]
    refine ⟨fun q hq => ?_, fun q hq => ?_, h.recent⟩
    · obtain ⟨pending, hp, rfl⟩ := Option.map_eq_some_iff.1 hq
      exact hopen pending hp (h.opens pending hp)
    · obtain ⟨pending, hp, rfl⟩ := Option.map_eq_some_iff.1 hq
      rw [through_transfer]
      exact h.unknown pending hp
  | armed peer request devices now entry found hcall harms hsettles henabled hwell hpending hnew hfound hafter =>
    have hnothing : r.finished = [] := by rw [Record.finished, hsettles]
    rw [hnothing, List.append_nil, hafter]
    refine ⟨fun q hq => ?_, fun q hq => ?_, h.recent⟩
    · obtain rfl := Option.some.inj hq
      rw [PendingIncoming.allArrived_eq, fresh_statuses hfound]
      obtain ⟨device, rest, rfl⟩ := List.exists_cons_of_ne_nil (matched_ne_nil hwell hfound)
      simp
    · obtain rfl := Option.some.inj hq
      exact h.kept.none_iff.1 hnew
  | settled pending outcome hpending harms hsettles hreports hafter hdecided =>
    obtain ⟨hentry, hsound⟩ := h.finish hpending (through_transfer pending r.call) outcome
    rw [← hafter] at hentry hsound
    have hone : r.finished = [(pending.transfer,
        ⟨accept (pending.through r.call).transferId 0, (pending.through r.call).result outcome⟩)] := by
      simp only [Record.finished, hsettles, hentry]
      rfl
    rw [hone]
    exact hsound

section
variable [F64 F] (enabled : Bool)

/-- **The invariant over whole runs**: the ledger remembers the last finished transfers, whatever the calls. -/
theorem sound_run : ∀ (calls : List (Call F)) (l : IncomingLedger F) (log : List (Transfer × CompletedIncoming)),
    Sound l log → Sound (ledgerAfter enabled l calls) (log ++ (records enabled l calls).flatMap Record.finished)
  | [], l, log, h => by
    rw [records, List.flatMap_nil, List.append_nil]
    exact h
  | call :: calls, l, log, h => by
    rw [records, List.flatMap_cons, ← List.append_assoc]
    exact sound_run calls _ _ (h.step (turn_step enabled l call))

theorem records_append : ∀ (xs ys : List (Call F)) (l : IncomingLedger F),
    records enabled l (xs ++ ys) = records enabled l xs ++ records enabled (ledgerAfter enabled l xs) ys
  | [], _, _ => rfl
  | x :: xs, ys, l => by
    rw [List.cons_append, records, records_append xs ys]
    rfl

theorem ledgerAfter_append : ∀ (xs ys : List (Call F)) (l : IncomingLedger F),
    ledgerAfter enabled l (xs ++ ys) = ledgerAfter enabled (ledgerAfter enabled l xs) ys
  | [], _, _ => rfl
  | _ :: xs, ys, _ => ledgerAfter_append xs ys _

/-- A record of a run is one turn, at the ledger the calls before it leave. -/
theorem records_split : ∀ (calls : List (Call F)) (l : IncomingLedger F) (pre post : List (Record F)) (r : Record F),
    records enabled l calls = pre ++ r :: post → ∃ before call later, calls = before ++ call :: later ∧
      r = turn enabled (ledgerAfter enabled l before) call ∧ pre = records enabled l before ∧
      post = records enabled r.after later
  | [], _, pre, post, r, h => by cases pre <;> cases h
  | call :: calls, l, [], post, r, h => by
    rw [records, List.nil_append, List.cons.injEq] at h
    obtain ⟨rfl, rfl⟩ := h
    exact ⟨[], call, calls, rfl, rfl, rfl, rfl⟩
  | call :: calls, l, x :: pre, post, r, h => by
    rw [records, List.cons_append, List.cons.injEq] at h
    obtain ⟨rfl, h⟩ := h
    obtain ⟨before, c, later, rfl, hr, rfl, hpost⟩ := records_split calls _ pre post r h
    exact ⟨call :: before, c, later, rfl, hr, rfl, hpost⟩

/-! ## What becomes of a pending transfer -/

/-- Nothing was armed, nothing was finished, and no expiry was due. -/
def Record.idle (due : Nat) (r : Record F) : Prop :=
  r.arms = none ∧ r.settles = none ∧ ∀ now, r.call = .expire now → now < due

omit [F64 F] in
theorem seen_cons (r : Record F) (views : List (Record F)) (key : PhysicalDeviceKey) :
    seen (r :: views) key = (r.sees key || seen views key) := rfl

omit [F64 F] in
theorem seen_concat (r : Record F) (views : List (Record F)) (key : PhysicalDeviceKey) :
    seen (views ++ [r]) key = (seen views key || r.sees key) := by
  simp [seen]

/-- **A pending transfer stays pending until a call finishes it**; until then each view adds the arrivals it shows. -/
theorem run_pending : ∀ (calls : List (Call F)) (l : IncomingLedger F) (pending : PendingIncoming F),
    l.pending = some pending → pending.allArrived = false →
    ((∀ r ∈ records enabled l calls, r.idle pending.deadline) ∧
      ∃ p, (ledgerAfter enabled l calls).pending = some p ∧ p.transfer = pending.transfer ∧
        p.deadline = pending.deadline) ∨
    ∃ mid r later outcome p, records enabled l calls = mid ++ r :: records enabled r.after later ∧
      (∀ x ∈ mid, x.idle pending.deadline) ∧ r.arms = none ∧ r.settles = some (pending.transfer, outcome) ∧
      r.after.pending = none ∧ Decided p r.call outcome ∧ p.allArrived = false ∧ p.deadline = pending.deadline ∧
      p.statuses = pending.statuses.map fun status => (status.1, status.2 || seen mid status.1)
  | [], l, pending, hp, _ => .inl ⟨fun _ h => (by cases h), pending, hp, rfl, rfl⟩
  | call :: calls, l, pending, hp, hopen => by
    rw [records, ledgerAfter]
    cases turn_step enabled l call with
    | quiet harms hsettles hafter hstays hdue =>
      have hidle : (turn enabled l call).idle pending.deadline := ⟨harms, hsettles, hdue pending hp⟩
      have hpending : (turn enabled l call).after.pending = some (pending.through (turn enabled l call).call) := by
        rw [hafter, hp]
        rfl
      have hforall {P : Record F → Prop} {rs : List (Record F)} (h : P (turn enabled l call)) (hrs : ∀ r ∈ rs, P r) :
          ∀ r ∈ turn enabled l call :: rs, P r := List.forall_mem_cons.2 ⟨h, hrs⟩
      rcases run_pending calls _ _ hpending (hstays pending hp hopen) with
        ⟨hall, p, hp', htransfer, hdeadline⟩ |
        ⟨mid, r, later, outcome, p, hrecords, hmid, harms', hsettles', hnone, hdecided, hleft, hdeadline, hstatuses⟩
      · rw [through_deadline] at hall hdeadline
        rw [through_transfer] at htransfer
        exact .inl ⟨hforall hidle hall, p, hp', htransfer, hdeadline⟩
      · rw [through_deadline] at hmid hdeadline
        rw [through_transfer] at hsettles'
        refine .inr ⟨turn enabled l call :: mid, r, later, outcome, p, by rw [hrecords, List.cons_append],
          hforall hidle hmid, harms', hsettles', hnone, hdecided, hleft, hdeadline, ?_⟩
        rw [hstatuses, through_statuses, List.map_map]
        refine List.map_congr_left fun status _ => ?_
        simp only [Function.comp_apply, seen_cons, Bool.or_assoc]
    | armed peer request devices now entry found hcall harms hsettles henabled hwell hpending hnew hfound hafter =>
      rw [hp] at hpending
      cases hpending
    | settled pending' outcome hpending harms hsettles hreports hafter hdecided =>
      rw [hp] at hpending
      obtain rfl := Option.some.inj hpending
      refine .inr ⟨[], turn enabled l call, calls, outcome, pending, rfl, fun _ h => (by cases h), harms, hsettles, ?_,
        hdecided, hopen, rfl, ?_⟩
      · rw [hafter, IncomingLedger.finish_pending]
      · simp [seen]

omit [F64 F] in
theorem settlements_idle {transfer : Transfer} : ∀ {mid : List (Record F)} {due : Nat} (rest : List (Record F)),
    (∀ r ∈ mid, r.idle due) → settlements transfer (mid ++ rest) = settlements transfer rest
  | [], _, _, _ => rfl
  | r :: mid, due, rest, h => by
    obtain ⟨⟨harms, hsettles, -⟩, hmid⟩ := List.forall_mem_cons.1 h
    rw [List.cons_append, settlements, harms, hsettles, if_neg (fun h => by cases h)]
    exact settlements_idle rest hmid

omit [F64 F] in
theorem settlements_settled {transfer : Transfer} {r : Record F} {outcome : HandoffOutcome} (rest : List (Record F))
    (harms : r.arms = none) (hsettles : r.settles = some (transfer, outcome)) :
    settlements transfer (r :: rest) = outcome :: settlements transfer rest := by
  rw [settlements, harms, hsettles, if_neg (fun h => by cases h)]
  exact if_pos rfl

/-- **A transfer that is not pending is finished only after it is armed again.** -/
theorem settlements_of_not_pending (transfer : Transfer) : ∀ (calls : List (Call F)) (l : IncomingLedger F),
    (∀ pending ∈ l.pending, pending.transfer ≠ transfer) → settlements transfer (records enabled l calls) = []
  | [], _, _ => rfl
  | call :: calls, l, h => by
    rw [records, settlements]
    cases turn_step enabled l call with
    | quiet harms hsettles hafter hstays hdue =>
      rw [harms, hsettles, if_neg (fun h => by cases h)]
      refine settlements_of_not_pending transfer calls _ fun q hq => ?_
      rw [hafter] at hq
      obtain ⟨pending, hp, rfl⟩ := Option.map_eq_some_iff.1 hq
      rw [through_transfer]
      exact h pending hp
    | armed peer request devices now entry found hcall harms hsettles henabled hwell hpending hnew hfound hafter =>
      rw [harms, hsettles]
      split
      · rfl
      · rename_i hother
        refine settlements_of_not_pending transfer calls _ fun q hq => ?_
        rw [hafter] at hq
        obtain rfl := Option.some.inj hq
        exact fun he => hother (congrArg some he)
    | settled pending outcome hpending harms hsettles hreports hafter hdecided =>
      rw [harms, hsettles, if_neg (fun h => by cases h)]
      simp only
      rw [if_neg (h pending hpending)]
      refine settlements_of_not_pending transfer calls _ fun q hq => ?_
      rw [hafter, IncomingLedger.finish_pending] at hq
      cases hq

end

/-! ## How a transfer is finished -/

/-- **What an outcome tells** of the devices a transfer expected, given the views taken while it was armed. -/
structure Told (keys : List PhysicalDeviceKey) (views : List (Record F)) (outcome : HandoffOutcome) : Prop where
  arrived : outcome = .arrived ↔ ∀ key ∈ keys, seen views key = true
  partialArrival : outcome = .partialArrival ↔
    (∃ key ∈ keys, seen views key = true) ∧ ∃ key ∈ keys, seen views key = false
  timeout : outcome ≠ .cancelled → (outcome = .timeout ↔ ∀ key ∈ keys, seen views key = false)
  cancelled : outcome = .cancelled → ∀ key ∈ keys, seen views key = false

theorem told_of_all (hkeys : keys ≠ []) (h : ∀ key ∈ keys, seen views key = true) : Told keys views .arrived := by
  have hnever : ∀ key ∈ keys, ¬ seen views key = false := fun key hkey => by simp [h key hkey]
  obtain ⟨one, hone⟩ := List.exists_mem_of_ne_nil keys hkeys
  refine ⟨iff_of_true rfl h, iff_of_false (by decide) ?_, fun _ => iff_of_false (by decide) ?_, fun h => (by cases h)⟩
  · rintro ⟨-, key, hkey, hno⟩
    exact hnever key hkey hno
  · exact fun hno => hnever one hone (hno one hone)

theorem told_of_some (h : ∃ key ∈ keys, seen views key = true) (hleft : ∃ key ∈ keys, seen views key = false) :
    Told keys views .partialArrival := by
  refine ⟨iff_of_false (by decide) ?_, iff_of_true rfl ⟨h, hleft⟩, fun _ => iff_of_false (by decide) ?_,
    fun h => (by cases h)⟩
  · intro hall
    obtain ⟨key, hkey, hno⟩ := hleft
    rw [hall key hkey] at hno
    cases hno
  · intro hnone
    obtain ⟨key, hkey, hyes⟩ := h
    rw [hnone key hkey] at hyes
    cases hyes

theorem told_of_none (hkeys : keys ≠ []) (h : ∀ key ∈ keys, seen views key = false)
    (ho : outcome = .timeout ∨ outcome = .cancelled) : Told keys views outcome := by
  have hnever : ∀ key ∈ keys, ¬ seen views key = true := fun key hkey => by simp [h key hkey]
  obtain ⟨one, hone⟩ := List.exists_mem_of_ne_nil keys hkeys
  have harrived : outcome ≠ .arrived := by rcases ho with rfl | rfl <;> decide
  have hpartial : outcome ≠ .partialArrival := by rcases ho with rfl | rfl <;> decide
  refine ⟨iff_of_false harrived ?_, iff_of_false hpartial ?_, fun hc => iff_of_true (ho.resolve_right hc) h, fun _ => h⟩
  · exact fun hall => hnever one hone (hall one hone)
  · rintro ⟨⟨key, hkey, hyes⟩, -⟩
    exact hnever key hkey hyes

/-- **The outcome tells which devices the views showed**, up to the call that decides it. -/
theorem Decided.told {r : Record F} (h : Decided pending r.call outcome) (hleft : pending.allArrived = false)
    (hkeys : keys ≠ []) {mid : List (Record F)}
    (hstatuses : pending.statuses = keys.map fun key => (key, seen mid key)) : Told keys (mid ++ [r]) outcome := by
  have hany : pending.anyArrived = keys.any fun key => seen mid key := by
    rw [PendingIncoming.anyArrived_eq, hstatuses, List.any_map]
    rfl
  have hall : (pending.through r.call).allArrived = keys.all fun key => seen (mid ++ [r]) key := by
    rw [PendingIncoming.allArrived_eq, through_statuses, hstatuses, List.map_map, List.all_map]
    congr 1
    funext key
    exact (seen_concat r mid key).symm
  -- a call that is no view sees nothing
  have hblind (hno : ∀ key, r.sees key = false) (key : PhysicalDeviceKey) : seen (mid ++ [r]) key = seen mid key := by
    rw [seen_concat, hno, Bool.or_false]
  generalize hcall : r.call = call at h hall
  cases h with
  | arrived devices now h =>
    have h : (pending.through (.observe devices now)).allArrived = true := h
    rw [hall, List.all_eq_true] at h
    exact told_of_all hkeys h
  | partialArrival now hdue h =>
    have hno : ∀ key, r.sees key = false := fun key => by rw [Record.sees, hcall]
    rw [hany, List.any_eq_true] at h
    have hleft : (pending.through (.expire now)).allArrived = false := hleft
    rw [hall, List.all_eq_false] at hleft
    obtain ⟨key, hkey, hseen⟩ := h
    obtain ⟨left, hmem, hunseen⟩ := hleft
    exact told_of_some ⟨key, hkey, by rw [hblind hno]; exact hseen⟩ ⟨left, hmem, by simpa using hunseen⟩
  | timeout now hdue h =>
    have hno : ∀ key, r.sees key = false := fun key => by rw [Record.sees, hcall]
    rw [hany, List.any_eq_false] at h
    exact told_of_none hkeys (fun key hkey => by rw [hblind hno]; simpa using h key hkey) (.inl rfl)
  | cancelled h =>
    have hno : ∀ key, r.sees key = false := fun key => by rw [Record.sees, hcall]
    rw [hany, List.any_eq_false] at h
    exact told_of_none hkeys (fun key hkey => by rw [hblind hno]; simpa using h key hkey) (.inr rfl)

/-- A pending transfer that runs out its window has its expiry called at an instant past it. -/
theorem Decided.due {call : Call F} (h : Decided pending call outcome)
    (ho : outcome = .partialArrival ∨ outcome = .timeout) :
    ∃ now, call = .expire now ∧ pending.deadline ≤ now := by
  cases h with
  | arrived => rcases ho with h | h <;> cases h
  | partialArrival now hdue => exact ⟨now, rfl, hdue⟩
  | timeout now hdue => exact ⟨now, rfl, hdue⟩
  | cancelled => rcases ho with h | h <;> cases h

end Handoff
end Flow
end OpenLogi
