import OpenLogi.Flow.Transfers
import Mathlib.Data.List.Induction
import Mathlib.Algebra.Order.Ring.Rat
/-!
# Incoming — every armed transfer is finished once, and remembered

An armed transfer is watched until one call finishes it; the outcome tells which of its devices the views showed.  Its
result is remembered until 64 newer ones push it out, and a request that comes again gets it.
-/
namespace OpenLogi
namespace Flow
namespace Handoff

open OpenLogi.Core (PhysicalDeviceKey)
open OpenLogi.Scroll (F64 plainRationals)

variable {F : Type}

/-- What has become of a transfer armed at `now`, in the records since. -/
inductive Fate (l : IncomingLedger F) (transfer : Transfer) (keys : List PhysicalDeviceKey) (now : Nat)
    (post : List (Record F)) : Prop where
  /-- It is pending, and its expiry was never due. -/
  | watching (hnone : settlements transfer post = []) (hpending : ∃ p ∈ l.pending, p.transfer = transfer)
    (hdue : ∀ r ∈ post, ∀ t, r.call = .expire t → t < now + armTimeout)
  /-- One call finished it, and no other did. -/
  | settled (mid : List (Record F)) (r : Record F) (rest : List (Record F)) (outcome : HandoffOutcome)
    (hpost : post = mid ++ r :: rest) (hsettles : r.settles = some (transfer, outcome))
    (honce : settlements transfer post = [outcome]) (htold : Told keys (mid ++ [r]) outcome)
    (hdue : outcome = .partialArrival ∨ outcome = .timeout → ∃ t, r.call = .expire t ∧ now + armTimeout ≤ t)

section
variable [F64 F] (enabled : Bool)

/-- **What becomes of an armed transfer**, whatever calls come after. -/
theorem armed_fate (calls : List (Call F)) {pre post : List (Record F)} {r : Record F} {peer : PublicKey}
    {request : HandoffRequest F} {devices : LocalDevices} {now : Nat}
    (h : records enabled .empty calls = pre ++ r :: post) (hcall : r.call = .arm peer request devices now)
    (harms : r.arms = some (peer, request.transferId)) :
    enabled = true ∧ request.wellFormed = true ∧ ∃ found, matchDevices devices [] request.devices = .ok found ∧
      Fate (ledgerAfter enabled .empty calls) (peer, request.transferId) (found.map PendingDevice.key) now post := by
  obtain ⟨before, call, later, rfl, hr, -, rfl⟩ := records_split enabled calls _ pre post r h
  have hfinal : ledgerAfter enabled .empty (before ++ call :: later) = ledgerAfter enabled r.after later := by
    rw [ledgerAfter_append, ledgerAfter, ← hr]
  have hstep := turn_step enabled (ledgerAfter enabled .empty before) call
  rw [← hr] at hstep
  cases hstep with
  | quiet harms' =>
    rw [harms'] at harms
    cases harms
  | settled _ _ _ harms' =>
    rw [harms'] at harms
    cases harms
  | armed peer' request' devices' now' entry found hcall' harms' hsettles henabled hwell hpending hnew hfound hafter =>
    rw [hcall'] at hcall
    cases hcall
    refine ⟨henabled, hwell, found, hfound, ?_⟩
    have hp : r.after.pending = some (fresh peer request.transferId entry found now) := by rw [hafter]
    have hfresh := fresh_statuses hfound peer request.transferId entry now
    have hkeys : found.map PendingDevice.key ≠ [] := by simpa using matched_ne_nil hwell hfound
    have hopen : (fresh peer request.transferId entry found now).allArrived = false := by
      rw [PendingIncoming.allArrived_eq, hfresh]
      obtain ⟨key, keys, hcons⟩ := List.exists_cons_of_ne_nil hkeys
      simp [hcons]
    rw [hfinal]
    rcases run_pending enabled later _ _ hp hopen with
      ⟨hall, p, hp', htransfer, -⟩ |
      ⟨mid, x, rest, outcome, p, hrecords, hmid, hxarms, hxsettles, hnone, hdecided, hleft, hdeadline, hstatuses⟩
    · have hquiet : settlements (peer, request.transferId) (records enabled r.after later ++ []) = [] :=
        settlements_idle [] hall
      rw [List.append_nil] at hquiet
      exact .watching hquiet ⟨p, hp', htransfer⟩ fun y hy t ht => (hall y hy).2.2 t ht
    · have hxsettles : x.settles = some ((peer, request.transferId), outcome) := hxsettles
      have honce : settlements (peer, request.transferId) (records enabled r.after later) = [outcome] := by
        rw [hrecords, settlements_idle _ hmid, settlements_settled _ hxarms hxsettles,
          settlements_of_not_pending enabled _ _ _ fun q hq => by rw [hnone] at hq; cases hq]
      have hseen : p.statuses = (found.map PendingDevice.key).map fun key => (key, seen mid key) := by
        rw [hstatuses, hfresh, List.map_map]
        exact List.map_congr_left fun key _ => by simp
      refine .settled mid x _ outcome hrecords hxsettles honce (hdecided.told hleft hkeys hseen) fun ho => ?_
      obtain ⟨t, ht, hdue⟩ := hdecided.due ho
      exact ⟨t, ht, hdeadline.symm.le.trans hdue⟩

/-- The ledger of a run remembers the transfers it finished last. -/
theorem remembers_last (calls : List (Call F)) :
    (ledgerAfter enabled .empty calls).memory.Recent completedLimit
      ((records enabled .empty calls).flatMap Record.finished) :=
  (sound_run enabled calls _ [] sound_empty).recent

/-- **A remembered result is the one its transfer was last finished with**: it was not armed again since. -/
theorem remembered (transfer : Transfer) (done : CompletedIncoming) (calls : List (Call F)) :
    (ledgerAfter enabled .empty calls).completed transfer = some done →
      ∃ pre r post, records enabled .empty calls = pre ++ r :: post ∧
        r.settles = some (transfer, done.result.outcome) ∧ (∀ result ∈ r.reports, result = done.result) ∧
        done.accept = accept transfer.2 0 ∧ ∀ x ∈ post, x.arms ≠ some transfer := by
  induction calls using List.reverseRecOn with
  | nil => exact fun h => (by cases h)
  | append_singleton calls call ih =>
    rw [ledgerAfter_append, records_append]
    simp only [ledgerAfter, records]
    have hsound := sound_run enabled calls _ [] (sound_empty (F := F))
    generalize hl : ledgerAfter enabled .empty calls = l at ih hsound
    intro h
    -- the call keeps what was remembered, and does not arm the transfer
    have hkeep (hold : l.completed transfer = some done) (harms : (turn enabled l call).arms ≠ some transfer) :
        ∃ pre r post, records enabled .empty calls ++ [turn enabled l call] = pre ++ r :: post ∧
          r.settles = some (transfer, done.result.outcome) ∧ (∀ result ∈ r.reports, result = done.result) ∧
          done.accept = accept transfer.2 0 ∧ ∀ x ∈ post, x.arms ≠ some transfer := by
      obtain ⟨pre, r, post, hrecords, hsettles, hreports, haccept, hpost⟩ := ih hold
      refine ⟨pre, r, post ++ [turn enabled l call], by rw [hrecords]; simp, hsettles, hreports, haccept, ?_⟩
      intro x hx
      rcases List.mem_append.1 hx with hx | hx
      · exact hpost x hx
      · rw [List.mem_singleton.1 hx]
        exact harms
    cases turn_step enabled l call with
    | quiet harms hsettles hafter hstays hdue =>
      rw [hafter] at h
      exact hkeep h (by rw [harms]; exact fun h => (by cases h))
    | armed peer request devices now entry found hcall harms hsettles henabled hwell hpending hnew hfound hafter =>
      rw [hafter] at h
      have h : l.completed transfer = some done := h
      refine hkeep h fun he => ?_
      rw [harms] at he
      obtain rfl := Option.some.inj he
      rw [hnew] at h
      cases h
    | settled pending outcome hpending harms hsettles hreports hafter hdecided =>
      by_cases hmine : transfer = pending.transfer
      · subst hmine
        obtain ⟨hentry, -⟩ := hsound.finish hpending (through_transfer pending (turn enabled l call).call) outcome
        rw [← hafter, h] at hentry
        obtain rfl := Option.some.inj hentry
        have hid := congrArg Prod.snd (through_transfer pending (turn enabled l call).call)
        exact ⟨records enabled .empty calls, turn enabled l call, [], rfl, hsettles, hreports,
          congrArg (accept · 0) hid, fun _ hx => (by cases hx)⟩
      · refine hkeep ?_ (by rw [harms]; exact fun h => (by cases h))
        have hmemory : (turn enabled l call).after.memory.entries transfer = some done := h
        rw [hafter, IncomingLedger.finish_memory, through_transfer] at hmemory
        exact Lib.Memory.remember_of_ne hmine hmemory

/-- **Every armed transfer is finished exactly once, unless it is still watched**; a request that comes again while its
result is remembered gets that result and changes nothing; and what is remembered is in step with the order it came. -/
theorem incoming_transfers (calls : List (Call F)) :
    (∀ pre r post peer request devices now, records enabled .empty calls = pre ++ r :: post →
      r.call = .arm peer request devices now → r.arms = some (peer, request.transferId) →
        enabled = true ∧ request.wellFormed = true ∧ ∃ found, matchDevices devices [] request.devices = .ok found ∧
          Fate (ledgerAfter enabled .empty calls) (peer, request.transferId) (found.map PendingDevice.key) now post) ∧
    (∀ transfer done, (ledgerAfter enabled .empty calls).completed transfer = some done →
      (∃ pre r post, records enabled .empty calls = pre ++ r :: post ∧
        r.settles = some (transfer, done.result.outcome) ∧ (∀ result ∈ r.reports, result = done.result) ∧
        done.accept = accept transfer.2 0 ∧ ∀ x ∈ post, x.arms ≠ some transfer) ∧
      ∀ (request : HandoffRequest F) devices now, request.transferId = transfer.2 → enabled = true →
        request.wellFormed = true → (ledgerAfter enabled .empty calls).arm transfer.1 request devices enabled now =
          (.replay done.accept done.result, ledgerAfter enabled .empty calls)) ∧
    (ledgerAfter enabled .empty calls).memory.Kept completedLimit := by
  refine ⟨fun pre r post peer request devices now h hcall harms => armed_fate enabled calls h hcall harms,
    fun transfer done h => ⟨remembered enabled transfer done calls h, ?_⟩, (remembers_last enabled calls).kept⟩
  intro request devices now hid henabled hwell
  obtain ⟨entry, harm⟩ := (ledgerAfter enabled .empty calls).arm_wellFormed transfer.1 devices now hwell
  have hkey : (transfer.1, request.transferId) = transfer := by rw [hid]
  simp only [hkey, h] at harm
  rw [henabled] at harm ⊢
  exact harm

end

/-! ## One mouse -/

attribute [local instance] plainRationals

/-- A mouse, as it names itself. -/
def sampleIdentity : DeviceIdentity := ⟨[⟨.known .unitId, [0, 0, 0, 10]⟩], "unit:0000000a"⟩

def sampleMouse (online : Bool) : LocalDevices := ⟨[⟨⟨"unit:0000000a"⟩, sampleIdentity, .mouse, online⟩], []⟩

def sampleRequest : HandoffRequest ℚ := ⟨7, [sampleIdentity], some ⟨.known .left, 0, none⟩⟩

/-- The mouse is expected, and a view shows it at `arrival`. -/
def sampleHandoff (arrival : Nat) : List (Call ℚ) :=
  [.arm (sampleKey 1) sampleRequest (sampleMouse false) 0, .observe (sampleMouse true) arrival]

/-- The mouse arrives after 100 ms, and the request that comes again at 4 s gets the same result. -/
theorem incoming_transfers_mouse :
    (∃ found, Fate (ledgerAfter true .empty (sampleHandoff (100 * millis))) (sampleKey 1, 7)
      (List.map PendingDevice.key found) 0 ((records true .empty (sampleHandoff (100 * millis))).drop 1)) ∧
    ∃ done, (ledgerAfter true .empty (sampleHandoff (100 * millis))).completed (sampleKey 1, 7) = some done ∧
      done.result.outcome = .arrived ∧
      (ledgerAfter true .empty (sampleHandoff (100 * millis))).arm (sampleKey 1) sampleRequest (sampleMouse true) true
        (4000 * millis) =
          (.replay done.accept done.result, ledgerAfter true .empty (sampleHandoff (100 * millis))) := by
  have hclaim := incoming_transfers true (sampleHandoff (100 * millis))
  obtain ⟨-, -, found, -, hfate⟩ := hclaim.1 [] _ _ (sampleKey 1) sampleRequest (sampleMouse false) 0 rfl rfl rfl
  have hreplay := (hclaim.2.1 (sampleKey 1, 7) _ rfl).2 sampleRequest (sampleMouse true) (4000 * millis) rfl rfl rfl
  exact ⟨⟨found, hfate⟩, _, rfl, rfl, hreplay⟩

/-- Whether a view given before `due` shows the device of this key online. -/
def seenBefore (due : Nat) (views : List (Record F)) (key : PhysicalDeviceKey) : Bool :=
  views.any fun r => r.sees key && r.call.now.any fun now => now < due

/-- A view that comes two seconds after the window has closed, before the expiry does, still finishes the transfer as
arrived: `observe` does not look at the deadline. -/
theorem arrived_after_window :
    ¬ ∀ calls : List (Call ℚ), (calls.filterMap Call.now).Pairwise (· ≤ ·) →
      ∀ pre r post peer request devices now found mid x rest,
        records true .empty calls = pre ++ r :: post → r.call = .arm peer request devices now →
        r.arms = some (peer, request.transferId) → matchDevices devices [] request.devices = .ok found →
        post = mid ++ x :: rest → x.settles = some ((peer, request.transferId), .arrived) →
        ∀ key ∈ found.map PendingDevice.key, seenBefore (now + armTimeout) (mid ++ [x]) key = true := by
  intro h
  have hlate := h (sampleHandoff (5000 * millis)) (by decide) [] _ _ (sampleKey 1) sampleRequest (sampleMouse false) 0
    [⟨⟨"unit:0000000a"⟩, sampleIdentity, none⟩] [] _ _ rfl rfl rfl rfl rfl rfl ⟨"unit:0000000a"⟩ (by decide)
  revert hlate
  decide

end Handoff
end Flow
end OpenLogi
