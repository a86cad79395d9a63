import OpenLogi.Hidpp.Message
import Mathlib.Algebra.GroupWithZero.Nat
/-!
# Pending — the requests awaiting a reply

`PendingQueue` is what awaits a reply, which headers stay reserved for replies nobody waits for any more, and the
wakers of the parked requests; each definition is one critical section of the queue's lock.  Instants are nanoseconds,
and a waker is named by a handle: it is in `keyWaiters` until it is woken.
-/
namespace OpenLogi
namespace Hidpp

def staleReplyGrace : Nat := 1000000000

/-- What a request does about a reply still owed to an abandoned request with the same header. -/
inductive AbandonedReply where
  | quarantine
  | adoptIdentical
  deriving DecidableEq

structure PendingMessage where
  id : Nat
  key : CorrelationKey
  request : HidppMessage
  abandoned : AbandonedReply
  responsePredicate : HidppMessage → Bool
  /-- Replies still owed to earlier, abandoned sends of this same request. -/
  extraReplies : Nat
  key_eq : key = request.header

structure StaleKey where
  key : CorrelationKey
  request : HidppMessage
  responsePredicate : HidppMessage → Bool
  outstanding : Nat
  expires : Nat
  key_eq : key = request.header

structure PendingQueue where
  messages : List PendingMessage := []
  stale : List StaleKey := []
  keyWaiters : List Nat := []

/-- What a request that could not register has to wait for. -/
inductive Wait where
  | inFlight
  | stale (expires : Nat)

def PendingMessage.adopts (message : PendingMessage) (stale : StaleKey) : Bool :=
  message.abandoned = .adoptIdentical ∧ stale.request = message.request

/-- The stale key that stands for `outstanding` more replies to `message`. -/
def PendingMessage.owing (message : PendingMessage) (outstanding now : Nat) : StaleKey where
  key := message.key
  request := message.request
  responsePredicate := message.responsePredicate
  outstanding := outstanding
  expires := now + staleReplyGrace
  key_eq := message.key_eq

/-- A stale list without one reply that `msg` is, and whether that freed a key. -/
def discardFirst (msg : HidppMessage) : List StaleKey → Option (Bool × List StaleKey)
  | [] => none
  | stale :: rest =>
    if stale.responsePredicate msg then
      if stale.outstanding - 1 = 0 then some (true, rest)
      else some (false, { stale with outstanding := stale.outstanding - 1 } :: rest)
    else (discardFirst msg rest).map fun (freed, rest) => (freed, stale :: rest)

namespace PendingQueue

/-- The queue once the stale keys out of grace are gone. -/
def prune (q : PendingQueue) (now : Nat) : PendingQueue :=
  { q with stale := q.stale.filter fun stale => now < stale.expires }

/-- Registers `message` if nothing holds its key as of `now`, else says what it waits for. -/
def tryRegister (q : PendingQueue) (message : PendingMessage) (now : Nat) : PendingQueue × Option Wait :=
  let q := q.prune now
  if q.messages.any fun pending => pending.key = message.key then (q, some .inFlight)
  else
    match ((q.stale.filter fun stale => stale.key = message.key ∧ ¬ message.adopts stale).map (·.expires)).max? with
    | some expires => (q, some (.stale expires))
    | none =>
      let extraReplies := ((q.stale.filter fun stale => stale.key = message.key).map (·.outstanding)).sum
      ({ q with
          messages := q.messages ++ [{ message with extraReplies := extraReplies }]
          stale := q.stale.filter fun stale => stale.key ≠ message.key }, none)

def wakeKeyWaiters (q : PendingQueue) : PendingQueue := { q with keyWaiters := [] }

def oweReplies (q : PendingQueue) (message : PendingMessage) (outstanding now : Nat) : PendingQueue :=
  { q with stale := q.stale ++ [message.owing outstanding now] }

/-- Gives up on the request with `id`, if it is still awaiting its reply. -/
def abandon (q : PendingQueue) (id now : Nat) : PendingQueue :=
  match q.messages.find? fun message => message.id = id with
  | none => q
  | some abandoned =>
    -- its own reply, plus any it had adopted
    let q := { q with messages := q.messages.eraseP fun message => message.id = id }
    (q.oweReplies abandoned (abandoned.extraReplies + 1) now).wakeKeyWaiters

/-- Discards `msg` if it is an outstanding reply of an abandoned request. -/
def discardStaleReply (q : PendingQueue) (msg : HidppMessage) : PendingQueue :=
  match discardFirst msg q.stale with
  | none => q
  | some (true, stale) => { q with stale := stale }.wakeKeyWaiters
  | some (false, stale) => { q with stale := stale }

/-- The read loop's dispatch of one message: the request it answers, if any. -/
def dispatch (q : PendingQueue) (msg : HidppMessage) (now : Nat) : Option PendingMessage × PendingQueue :=
  match q.messages.find? fun message => message.responsePredicate msg with
  | none => (none, q.discardStaleReply msg)
  | some answered =>
    let q := { q with messages := q.messages.eraseP fun message => message.responsePredicate msg }
    -- the other replies must not answer the next request with this header
    let q := if 0 < answered.extraReplies then q.oweReplies answered answered.extraReplies now else q
    (some answered, q.wakeKeyWaiters)

end PendingQueue

/-! ## What each operation can do -/

@[simp] theorem PendingQueue.prune_messages (q : PendingQueue) (now : Nat) : (q.prune now).messages = q.messages := rfl

@[simp] theorem PendingQueue.prune_keyWaiters (q : PendingQueue) (now : Nat) :
    (q.prune now).keyWaiters = q.keyWaiters := rfl

theorem PendingQueue.mem_prune {q : PendingQueue} {now : Nat} {st : StaleKey} :
    st ∈ (q.prune now).stale ↔ st ∈ q.stale ∧ now < st.expires := by
  simp [PendingQueue.prune]

/-- **What a registration can do**: wait for a pending message of its key, wait for the last stale key it does not
adopt, or enter the queue in place of the stale keys it adopts. -/
theorem PendingQueue.tryRegister_cases (q : PendingQueue) (message : PendingMessage) (now : Nat) :
    (∃ pending ∈ q.messages, pending.key = message.key ∧
      q.tryRegister message now = (q.prune now, some .inFlight)) ∨
    (∃ st ∈ (q.prune now).stale, st.key = message.key ∧
      q.tryRegister message now = (q.prune now, some (.stale st.expires))) ∨
    ((∀ pending ∈ q.messages, pending.key ≠ message.key) ∧
      (∀ st ∈ (q.prune now).stale, st.key = message.key → message.adopts st = true) ∧
      q.tryRegister message now = ({ q with
        messages := q.messages ++ [{ message with
          extraReplies := (((q.prune now).stale.filter fun st => st.key = message.key).map (·.outstanding)).sum }]
        stale := (q.prune now).stale.filter fun st => st.key ≠ message.key }, none)) := by
  by_cases hm : ∃ pending ∈ q.messages, pending.key = message.key
  · obtain ⟨pending, hp, hk⟩ := hm
    refine Or.inl ⟨pending, hp, hk, ?_⟩
    have hany : (q.messages.any fun pending => pending.key = message.key) = true :=
      List.any_eq_true.2 ⟨pending, hp, decide_eq_true hk⟩
    simp only [tryRegister, prune_messages, hany, if_true]
  · have hany : (q.messages.any fun pending => pending.key = message.key) = false := by
      simpa using hm
    simp only [tryRegister, prune_messages, prune_keyWaiters, hany, Bool.false_eq_true, if_false]
    split
    · rename_i expires he
      obtain ⟨st, hst, rfl⟩ := List.mem_map.1 (List.max?_mem he)
      rw [List.mem_filter] at hst
      exact Or.inr (Or.inl ⟨st, hst.1, (of_decide_eq_true hst.2).1, rfl⟩)
    · rename_i he
      rw [List.max?_eq_none_iff, List.map_eq_nil_iff, List.filter_eq_nil_iff] at he
      refine Or.inr (Or.inr ⟨fun pending hp hk => hm ⟨pending, hp, hk⟩, fun st hst hk => ?_, rfl⟩)
      have := he st hst
      simpa [hk] using this

/-- The first message that satisfies `p`, and what is left without it. -/
theorem find_eraseP {α : Type} {p : α → Bool} {l : List α} {a : α} (h : l.find? p = some a) :
    ∃ pre post, l = pre ++ a :: post ∧ l.eraseP p = pre ++ post ∧ p a = true := by
  obtain ⟨hp, pre, post, rfl, hpre⟩ := List.find?_eq_some_iff_append.1 h
  refine ⟨pre, post, rfl, ?_, hp⟩
  rw [List.eraseP_append_right _ (fun b hb => by simpa using hpre b hb), List.eraseP_cons_of_pos hp]

theorem PendingQueue.abandon_cases (q : PendingQueue) (id now : Nat) :
    ((∀ message ∈ q.messages, message.id ≠ id) ∧ q.abandon id now = q) ∨
    ∃ pre message post, q.messages = pre ++ message :: post ∧ message.id = id ∧
      q.abandon id now = ⟨pre ++ post, q.stale ++ [message.owing (message.extraReplies + 1) now], []⟩ := by
  unfold abandon
  split
  · rename_i h
    refine Or.inl ⟨fun message hm hid => ?_, rfl⟩
    exact absurd (List.find?_eq_none.1 h message hm) (by simpa using hid)
  · rename_i message h
    obtain ⟨pre, post, hl, he, hid⟩ := find_eraseP h
    refine Or.inr ⟨pre, message, post, hl, by simpa using hid, ?_⟩
    simp only [oweReplies, wakeKeyWaiters, he]

/-- What discarding a reply can do to the stale keys: nothing, free the first that takes it, or count it there. -/
theorem discardFirst_cases (msg : HidppMessage) : ∀ l : List StaleKey,
    ((∀ st ∈ l, st.responsePredicate msg = false) ∧ discardFirst msg l = none) ∨
    ∃ pre st post, l = pre ++ st :: post ∧ st.responsePredicate msg = true ∧
      ((st.outstanding ≤ 1 ∧ discardFirst msg l = some (true, pre ++ post)) ∨
        (1 < st.outstanding ∧
          discardFirst msg l = some (false, pre ++ { st with outstanding := st.outstanding - 1 } :: post)))
  | [] => Or.inl ⟨fun _ h => absurd h List.not_mem_nil, rfl⟩
  | st :: rest => by
    unfold discardFirst
    by_cases hp : st.responsePredicate msg = true
    · rw [if_pos hp]
      refine Or.inr ⟨[], st, rest, rfl, hp, ?_⟩
      by_cases h1 : st.outstanding ≤ 1
      · rw [if_pos (by omega)]
        exact Or.inl ⟨h1, rfl⟩
      · rw [if_neg (by omega)]
        exact Or.inr ⟨by omega, rfl⟩
    · rw [if_neg hp]
      rcases discardFirst_cases msg rest with ⟨hn, hd⟩ | ⟨pre, st', post, hl, hp', hd⟩
      · refine Or.inl ⟨fun x hx => ?_, by rw [hd]; rfl⟩
        rcases List.mem_cons.1 hx with rfl | hx
        · simpa using hp
        · exact hn x hx
      · refine Or.inr ⟨st :: pre, st', post, by rw [hl]; rfl, hp', ?_⟩
        rcases hd with ⟨h1, hd⟩ | ⟨h1, hd⟩
        · exact Or.inl ⟨h1, by rw [hd]; rfl⟩
        · exact Or.inr ⟨h1, by rw [hd]; rfl⟩

/-- **What a message can do to the queue**: answer the pending request that takes it, which leaves its other replies
owed; be discarded as the last or as one of the replies owed to an abandoned request; or nothing. -/
theorem PendingQueue.dispatch_cases (q : PendingQueue) (msg : HidppMessage) (now : Nat) :
    (∃ pre message post, q.messages = pre ++ message :: post ∧ message.responsePredicate msg = true ∧
      q.dispatch msg now = (some message, ⟨pre ++ post,
        if 0 < message.extraReplies then q.stale ++ [message.owing message.extraReplies now] else q.stale, []⟩)) ∨
    (∃ pre st post, q.stale = pre ++ st :: post ∧ st.responsePredicate msg = true ∧
      ((st.outstanding ≤ 1 ∧ q.dispatch msg now = (none, ⟨q.messages, pre ++ post, []⟩)) ∨
        (1 < st.outstanding ∧ q.dispatch msg now = (none, { q with
          stale := pre ++ { st with outstanding := st.outstanding - 1 } :: post })))) ∨
    q.dispatch msg now = (none, q) := by
  unfold dispatch
  split
  · rcases discardFirst_cases msg q.stale with ⟨-, hd⟩ | ⟨pre, st, post, hl, hp, hd⟩
    · refine Or.inr (Or.inr ?_)
      rw [discardStaleReply, hd]
    · refine Or.inr (Or.inl ⟨pre, st, post, hl, hp, ?_⟩)
      rcases hd with ⟨h1, hd⟩ | ⟨h1, hd⟩
      · refine Or.inl ⟨h1, ?_⟩
        rw [discardStaleReply, hd]
        rfl
      · refine Or.inr ⟨h1, ?_⟩
        rw [discardStaleReply, hd]
  · rename_i message h
    obtain ⟨pre, post, hl, he, hp⟩ := find_eraseP h
    refine Or.inl ⟨pre, message, post, hl, hp, ?_⟩
    dsimp only
    split <;> simp only [oweReplies, wakeKeyWaiters, he]

end Hidpp
end OpenLogi
