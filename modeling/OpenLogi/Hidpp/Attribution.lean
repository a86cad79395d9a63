import OpenLogi.Hidpp.Channel
import Mathlib.Data.Finset.Card
import Mathlib.Algebra.Order.BigOperators.Group.List
import Mathlib.Algebra.Order.Group.Nat
/-!
# Attribution — whose reply answers a pending request

A reply carries a key and no number.  The invariant is an account of the replies that may still come for requests no
longer pending: under each key they are at most as many as the one entry of the queue that holds the key is owed, and
all to the request of that entry.
-/
namespace OpenLogi
namespace Hidpp

open Lib (run Along along_append along_cons along_inv)

variable (replyKey : HidppMessage → Option CorrelationKey)

def OwnKeyOnly (responsePredicate : HidppMessage → Bool) (key : CorrelationKey) : Prop :=
  ∀ msg, responsePredicate msg = true → replyKey msg = some key

namespace Sys

variable (s : Sys)

def Holds (key : CorrelationKey) : Prop :=
  (∃ message ∈ s.queue.messages, message.key = key) ∨ ∃ stale ∈ s.queue.stale, stale.key = key

def Asks (id : Nat) (request : HidppMessage) : Prop := ∃ a, s.asked id = some a ∧ a.request = request

/-- The request `id` is no longer pending, and its own reply may come until `expires`. -/
def Owes (key : CorrelationKey) (id expires : Nat) : Prop :=
  ∃ a t, s.asked id = some a ∧ a.replied = false ∧ a.request.header = key ∧ a.left = some t ∧
    expires = t + staleReplyGrace ∧ s.clock < expires

theorem Owes.lt {s : Sys} {key : CorrelationKey} {id expires : Nat} (h : s.Owes key id expires) :
    s.clock < expires := by
  obtain ⟨_, _, _, _, _, _, _, hc⟩ := h
  exact hc

/-- At most `n` replies may still come under `key` for requests no longer pending, all to `request`. -/
def Debt (key : CorrelationKey) (request : HidppMessage) (n : Nat) : Prop :=
  ∃ debts : Finset Nat, debts.card ≤ n ∧ ∀ id expires, s.Owes key id expires → id ∈ debts ∧ s.Asks id request

end Sys

/-- **What the channel relies on**: a predicate takes only messages of its own reply key; a reply comes once, after its
request went out, under the key of its request and no later than the grace its abandoned request is owed; and a message
that replies to nothing has the reply key of no request that is pending or owed replies. -/
def Timely (s : Sys) : Ev → Prop
  | .start msg _ responsePredicate _ => OwnKeyOnly replyKey responsePredicate msg.header
  | .incoming (some id) msg => ∃ a, s.asked id = some a ∧ a.sent = true ∧ a.replied = false ∧
      replyKey msg = some a.request.header ∧ ∀ t, a.left = some t → s.clock < t + staleReplyGrace
  | .incoming none msg => ∀ key, replyKey msg = some key → ¬ s.Holds key
  | _ => True

structure AttrInv (s : Sys) : Prop where
  fresh : ∀ id a, s.asked id = some a → id < s.pendingMessageId
  parkedFresh : ∀ p ∈ s.parked, p.message.id < s.pendingMessageId ∧ s.asked p.message.id = none
  parkedNodup : (s.parked.map (·.message.id)).Nodup
  parkedOwn : ∀ p ∈ s.parked, OwnKeyOnly replyKey p.message.responsePredicate p.message.key
  own : ∀ m ∈ s.queue.messages, OwnKeyOnly replyKey m.responsePredicate m.key
  staleOwn : ∀ st ∈ s.queue.stale, OwnKeyOnly replyKey st.responsePredicate st.key
  pending : ∀ m ∈ s.queue.messages, ∃ a, s.asked m.id = some a ∧ a.request = m.request ∧ a.left = none
  waiting : ∀ id a, s.asked id = some a → a.left = none → s.IsPending id
  past : ∀ id a t, s.asked id = some a → a.left = some t → t ≤ s.clock
  nodup : (s.queue.messages.map (·.key)).Nodup
  staleNodup : (s.queue.stale.map (·.key)).Nodup
  apart : ∀ m ∈ s.queue.messages, ∀ st ∈ s.queue.stale, m.key ≠ st.key
  quarantine : ∀ m ∈ s.queue.messages, m.abandoned = .quarantine → m.extraReplies = 0
  debt : ∀ m ∈ s.queue.messages, s.Debt m.key m.request m.extraReplies
  staleDebt : ∀ st ∈ s.queue.stale, s.Debt st.key st.request st.outstanding
  grace : ∀ st ∈ s.queue.stale, ∀ id expires, s.Owes st.key id expires → expires ≤ st.expires
  held : ∀ key id expires, s.Owes key id expires → s.Holds key

variable {replyKey}

/-! ## The account -/

variable {s : Sys} {key : CorrelationKey} {request msg : HidppMessage} {id expires i : Nat} {a : Asked}
  {message m : PendingMessage} {origin : Option Nat}

theorem Sys.Debt.mono {s' : Sys} {n : Nat} (h : s.Debt key request n)
    (ho : ∀ id expires, s'.Owes key id expires → s.Owes key id expires)
    (ha : ∀ id, s.Asks id request → s'.Asks id request) : s'.Debt key request n := by
  obtain ⟨debts, hc, hd⟩ := h
  refine ⟨debts, hc, fun id expires hi => ?_⟩
  obtain ⟨hmem, hask⟩ := hd id expires (ho id expires hi)
  exact ⟨hmem, ha id hask⟩

/-- A reply that comes settles one debt. -/
theorem Sys.Debt.settle {s' : Sys} {n : Nat} (h : s.Debt key request n) (hid : s.Owes key id expires)
    (ho : ∀ i expires, s'.Owes key i expires → i ≠ id ∧ s.Owes key i expires)
    (ha : ∀ i, s.Asks i request → s'.Asks i request) : 0 < n ∧ s'.Debt key request (n - 1) := by
  obtain ⟨debts, hc, hd⟩ := h
  have hmem := (hd id expires hid).1
  have hpos := Finset.card_pos.2 ⟨id, hmem⟩
  refine ⟨by omega, debts.erase id, ?_, fun i e hi => ?_⟩
  · rw [Finset.card_erase_of_mem hmem]
    omega
  · obtain ⟨hne, hi⟩ := ho i e hi
    exact ⟨Finset.mem_erase.2 ⟨hne, (hd i e hi).1⟩, ha i (hd i e hi).2⟩

theorem Sys.Debt.none (h : s.Debt key request 0) (id expires) :
    ¬ s.Owes key id expires := by
  obtain ⟨debts, hc, hd⟩ := h
  intro hi
  rw [Nat.le_zero, Finset.card_eq_zero] at hc
  rw [hc] at hd
  exact absurd (hd id expires hi).1 (Finset.notMem_empty id)

/-! ## The registry -/

theorem Sys.setAsked_self (s : Sys) (id : Nat) (a : Asked) : (s.setAsked id a).asked id = some a :=
  Function.update_self _ _ _

theorem Sys.setAsked_ne (s : Sys) (h : i ≠ id) (a : Asked) : (s.setAsked id a).asked i = s.asked i :=
  Function.update_of_ne h _ _

theorem Sys.of_setAsked {b : Asked} (h : (s.setAsked id a).asked i = some b) :
    (i = id ∧ b = a) ∨ (i ≠ id ∧ s.asked i = some b) := by
  by_cases hi : i = id
  · subst hi
    rw [Sys.setAsked_self] at h
    exact Or.inl ⟨rfl, (Option.some.inj h).symm⟩
  · rw [Sys.setAsked_ne s hi] at h
    exact Or.inr ⟨hi, h⟩

theorem Sys.owes_setAsked (h : (s.setAsked id a).Owes key i expires) :
    (i = id ∧ a.replied = false ∧ a.request.header = key ∧ ∃ t, a.left = some t ∧ expires = t + staleReplyGrace) ∨
    (i ≠ id ∧ s.Owes key i expires) := by
  obtain ⟨b, t, hb, hr, hk, hl, he, hc⟩ := h
  rcases Sys.of_setAsked hb with ⟨rfl, rfl⟩ | ⟨hi, hb⟩
  · exact Or.inl ⟨rfl, hr, hk, t, hl, he⟩
  · exact Or.inr ⟨hi, b, t, hb, hr, hk, hl, he, hc⟩

theorem Sys.asks_setAsked {b : Asked} (hb : s.asked id = some b) (hr : a.request = b.request) (h : s.Asks i request) :
    (s.setAsked id a).Asks i request := by
  obtain ⟨c, hc, hreq⟩ := h
  by_cases hi : i = id
  · subst hi
    rw [hb] at hc
    cases hc
    exact ⟨a, Sys.setAsked_self s i a, hr.trans hreq⟩
  · exact ⟨c, by rw [Sys.setAsked_ne s hi]; exact hc, hreq⟩

/-- A request keeps its place in the registry when it is sent or its reply comes. -/
theorem attr_setAsked (hs : AttrInv replyKey s) {b : Asked} (hb : s.asked id = some b) (hr : a.request = b.request)
    (hl : a.left = b.left) (hm : a.replied = false → b.replied = false) :
    AttrInv replyKey (s.setAsked id a) := by
  have howes : ∀ key i expires, (s.setAsked id a).Owes key i expires → s.Owes key i expires := by
    intro key i expires h
    have hc : s.clock < expires := h.lt
    rcases Sys.owes_setAsked h with ⟨rfl, hrep, hk, t, ht, he⟩ | ⟨_, h⟩
    · exact ⟨b, t, hb, hm hrep, hr ▸ hk, hl ▸ ht, he, hc⟩
    · exact h
  have hasks : ∀ {i request}, s.Asks i request → (s.setAsked id a).Asks i request := Sys.asks_setAsked hb hr
  have hback : ∀ i c, (s.setAsked id a).asked i = some c → ∃ c', s.asked i = some c' ∧ c.left = c'.left := by
    intro i c hc
    rcases Sys.of_setAsked hc with ⟨rfl, rfl⟩ | ⟨_, hc⟩
    · exact ⟨b, hb, hl⟩
    · exact ⟨c, hc, rfl⟩
  exact { hs with
    fresh := fun i c hc => by
      obtain ⟨c', hc', _⟩ := hback i c hc
      exact hs.fresh i c' hc'
    parkedFresh := fun p hp => by
      refine ⟨(hs.parkedFresh p hp).1, ?_⟩
      rw [Sys.setAsked_ne]
      · exact (hs.parkedFresh p hp).2
      · rintro rfl
        exact absurd ((hs.parkedFresh p hp).2.symm.trans hb) (Option.some_ne_none b).symm
    pending := fun m hmem => by
      obtain ⟨c, hc, hreq, hleft⟩ := hs.pending m hmem
      by_cases hi : m.id = id
      · rw [hi] at hc ⊢
        rw [hb] at hc
        cases hc
        exact ⟨a, Sys.setAsked_self s id a, hr.trans hreq, hl.trans hleft⟩
      · exact ⟨c, by rw [Sys.setAsked_ne s hi]; exact hc, hreq, hleft⟩
    waiting := fun i c hc hleft => by
      obtain ⟨c', hc', he⟩ := hback i c hc
      exact hs.waiting i c' hc' (he ▸ hleft)
    past := fun i c t hc ht => by
      obtain ⟨c', hc', he⟩ := hback i c hc
      exact hs.past i c' t hc' (he ▸ ht)
    debt := fun m hmem => (hs.debt m hmem).mono (howes m.key) fun _ => hasks
    staleDebt := fun st hst => (hs.staleDebt st hst).mono (howes st.key) fun _ => hasks
    grace := fun st hst i expires h => hs.grace st hst i expires (howes _ i expires h)
    held := fun key i expires h => hs.held key i expires (howes key i expires h) }

theorem attr_markReplied (hs : AttrInv replyKey s) (origin : Option Nat) :
    AttrInv replyKey (s.markReplied origin) := by
  unfold Sys.markReplied
  split
  · exact hs
  split
  · exact hs
  · rename_i hb
    exact attr_setAsked hs hb rfl rfl fun h => Bool.noConfusion h

/-! ## Registration -/

/-- Time only ends graces. -/
theorem attr_tick (hs : AttrInv replyKey s) (elapsed : Nat) :
    AttrInv replyKey { s with clock := s.clock + elapsed } := by
  have howes : ∀ key i expires, ({ s with clock := s.clock + elapsed } : Sys).Owes key i expires →
      s.Owes key i expires := by
    rintro key i expires ⟨a, t, ha, hr, hk, hl, he, hc⟩
    exact ⟨a, t, ha, hr, hk, hl, he, Nat.lt_of_le_of_lt (Nat.le_add_right _ _) hc⟩
  exact { hs with
    past := fun id a t ha hl => Nat.le_add_right_of_le (hs.past id a t ha hl)
    debt := fun m hm => (hs.debt m hm).mono (howes m.key) fun _ h => h
    staleDebt := fun st hst => (hs.staleDebt st hst).mono (howes st.key) fun _ h => h
    grace := fun st hst i expires h => hs.grace st hst i expires (howes _ i expires h)
    held := fun key i expires h => hs.held key i expires (howes key i expires h) }

/-- A stale key out of grace stands for no reply that may still come. -/
theorem attr_prune (hs : AttrInv replyKey s) {now : Nat} (hnow : now ≤ s.clock) :
    AttrInv replyKey { s with queue := s.queue.prune now } := by
  have hsub : ∀ st ∈ (s.queue.prune now).stale, st ∈ s.queue.stale := fun st h => (PendingQueue.mem_prune.1 h).1
  exact { hs with
    staleOwn := fun st hst => hs.staleOwn st (hsub st hst)
    staleNodup := hs.staleNodup.sublist (List.filter_sublist.map _)
    apart := fun m hm st hst => hs.apart m hm st (hsub st hst)
    staleDebt := fun st hst => hs.staleDebt st (hsub st hst)
    grace := fun st hst => hs.grace st (hsub st hst)
    held := fun key i expires h => by
      rcases hs.held key i expires h with hm | ⟨st, hst, rfl⟩
      · exact Or.inl hm
      · have hlt : s.clock < expires := h.lt
        have := hs.grace st hst i expires h
        exact Or.inr ⟨st, PendingQueue.mem_prune.2 ⟨hst, by omega⟩, rfl⟩ }

variable (replyKey) in
/-- What a request must be to be parked or registered. -/
structure Fresh (s : Sys) (message : PendingMessage) : Prop where
  id_lt : message.id < s.pendingMessageId
  unasked : s.asked message.id = none
  unparked : message.id ∉ s.parked.map (·.message.id)
  own : OwnKeyOnly replyKey message.responsePredicate message.key

theorem attr_park (hs : AttrInv replyKey s) (hm : Fresh replyKey s message) (waiter nextWaiter : Nat)
    (timer : Option Nat) (kw : List Nat) :
    AttrInv replyKey { s with
      queue := { s.queue with keyWaiters := kw }
      nextWaiter := nextWaiter
      parked := ⟨message, waiter, timer⟩ :: s.parked } :=
  { hs with
    parkedFresh := fun p hp => by
      rcases List.mem_cons.1 hp with rfl | hp
      · exact ⟨hm.id_lt, hm.unasked⟩
      · exact hs.parkedFresh p hp
    parkedNodup := List.nodup_cons.2 ⟨hm.unparked, hs.parkedNodup⟩
    parkedOwn := fun p hp => by
      rcases List.mem_cons.1 hp with rfl | hp
      · exact hm.own
      · exact hs.parkedOwn p hp }

theorem attr_unpark (hs : AttrInv replyKey s) (p : Parked → Bool) :
    AttrInv replyKey { s with parked := s.parked.eraseP p } :=
  { hs with
    parkedFresh := fun q hq => hs.parkedFresh q (List.mem_of_mem_eraseP hq)
    parkedNodup := hs.parkedNodup.sublist (List.eraseP_sublist.map _)
    parkedOwn := fun q hq => hs.parkedOwn q (List.mem_of_mem_eraseP hq) }

/-- The replies owed under the stale keys that a registration adopts. -/
theorem debt_adopted (hs : AttrInv replyKey s) (hfree : ∀ pending ∈ s.queue.messages, pending.key ≠ message.key)
    (hadopt : ∀ st ∈ s.queue.stale, st.key = message.key → message.adopts st = true) :
    (message.abandoned = .quarantine →
      ((s.queue.stale.filter fun st => st.key = message.key).map (·.outstanding)).sum = 0) ∧
    s.Debt message.key message.request
      ((s.queue.stale.filter fun st => st.key = message.key).map (·.outstanding)).sum := by
  constructor
  · intro hq
    have hnil : (s.queue.stale.filter fun st => st.key = message.key) = [] := by
      rw [List.filter_eq_nil_iff]
      intro st hst hk
      have := hadopt st hst (of_decide_eq_true hk)
      simp [PendingMessage.adopts, hq] at this
    rw [hnil]
    rfl
  by_cases hex : ∃ st ∈ s.queue.stale, st.key = message.key
  · obtain ⟨st, hst, hk⟩ := hex
    have hreq : st.request = message.request := by
      have := hadopt st hst hk
      simp only [PendingMessage.adopts, Bool.decide_and, Bool.and_eq_true, decide_eq_true_eq] at this
      exact this.2
    obtain ⟨debts, hc, hd⟩ := hs.staleDebt st hst
    refine ⟨debts, hc.trans ?_, fun id expires h => ?_⟩
    · exact List.le_sum_of_mem
        (List.mem_map.2 ⟨st, List.mem_filter.2 ⟨hst, decide_eq_true hk⟩, rfl⟩)
    · rw [← hreq]
      exact hd id expires (hk ▸ h)
  · refine ⟨∅, Nat.zero_le _, fun id expires h => ?_⟩
    rcases hs.held _ id expires h with ⟨m, hm, hk⟩ | ⟨st, hst, hk⟩
    · exact absurd hk (hfree m hm)
    · exact absurd ⟨st, hst, hk⟩ hex

theorem attr_register (hs : AttrInv replyKey s) (hm : Fresh replyKey s message)
    (hfree : ∀ pending ∈ s.queue.messages, pending.key ≠ message.key)
    (hadopt : ∀ st ∈ s.queue.stale, st.key = message.key → message.adopts st = true) :
    AttrInv replyKey (({ s with queue := { s.queue with
      messages := s.queue.messages ++ [{ message with
        extraReplies := ((s.queue.stale.filter fun st => st.key = message.key).map (·.outstanding)).sum }]
      stale := s.queue.stale.filter fun st => st.key ≠ message.key } } : Sys).setAsked message.id
        { request := message.request }) := by
  obtain ⟨hquar, hdebt⟩ := debt_adopted hs hfree hadopt
  generalize ((s.queue.stale.filter fun st => st.key = message.key).map (·.outstanding)).sum = n at *
  have hsub : ∀ st ∈ s.queue.stale.filter fun st => st.key ≠ message.key,
      st ∈ s.queue.stale ∧ st.key ≠ message.key := by
    intro st hst
    obtain ⟨hst, hne⟩ := List.mem_filter.1 hst
    exact ⟨hst, of_decide_eq_true hne⟩
  have hne : ∀ {i a}, s.asked i = some a → i ≠ message.id := by
    rintro i a ha rfl
    exact absurd (hm.unasked.symm.trans ha) (Option.some_ne_none a).symm
  set s' := (({ s with queue := _ } : Sys).setAsked message.id { request := message.request }) with hs'
  have hasked : ∀ i, i ≠ message.id → s'.asked i = s.asked i := fun i hi => Sys.setAsked_ne _ hi _
  have hback : ∀ i a, s'.asked i = some a → (i = message.id ∧ a = { request := message.request }) ∨
      (i ≠ message.id ∧ s.asked i = some a) := fun _ _ => Sys.of_setAsked
  have howes : ∀ key i expires, s'.Owes key i expires → s.Owes key i expires := by
    rintro key i expires h
    rcases Sys.owes_setAsked h with ⟨_, _, _, t, ht, _⟩ | ⟨_, h⟩
    · cases ht
    · exact h
  have hasks : ∀ i request, s.Asks i request → s'.Asks i request := by
    rintro i request ⟨a, ha, hr⟩
    exact ⟨a, by rw [hasked i (hne ha)]; exact ha, hr⟩
  have hmsg : ∀ m ∈ s'.queue.messages, m ∈ s.queue.messages ∨ m = { message with extraReplies := n } := by
    intro m h
    rcases List.mem_append.1 h with h | h
    · exact Or.inl h
    · exact Or.inr (List.mem_singleton.1 h)
  exact
    { fresh := fun i a ha => by
        rcases hback i a ha with ⟨rfl, _⟩ | ⟨_, ha⟩
        · exact hm.id_lt
        · exact hs.fresh i a ha
      parkedFresh := fun p hp => by
        refine ⟨(hs.parkedFresh p hp).1, ?_⟩
        rw [hasked _ fun he => hm.unparked (he ▸ List.mem_map_of_mem hp)]
        exact (hs.parkedFresh p hp).2
      parkedNodup := hs.parkedNodup
      parkedOwn := hs.parkedOwn
      own := fun m h => by
        rcases hmsg m h with h | rfl
        · exact hs.own m h
        · exact hm.own
      staleOwn := fun st hst => hs.staleOwn st (hsub st hst).1
      pending := fun m h => by
        rcases hmsg m h with h | rfl
        · obtain ⟨a, ha, hr⟩ := hs.pending m h
          exact ⟨a, by rw [hasked _ (hne ha)]; exact ha, hr⟩
        · exact ⟨_, Sys.setAsked_self _ _ _, rfl, rfl⟩
      waiting := fun i a ha hl => by
        rcases hback i a ha with ⟨rfl, _⟩ | ⟨_, ha⟩
        · exact ⟨_, List.mem_append_right _ (List.mem_singleton.2 rfl), rfl⟩
        · obtain ⟨m, hmem, hid⟩ := hs.waiting i a ha hl
          exact ⟨m, List.mem_append_left _ hmem, hid⟩
      past := fun i a t ha hl => by
        rcases hback i a ha with ⟨_, rfl⟩ | ⟨_, ha⟩
        · cases hl
        · exact hs.past i a t ha hl
      nodup := by
        show ((s.queue.messages ++ [_]).map _).Nodup
        rw [List.map_append, List.nodup_append]
        refine ⟨hs.nodup, List.nodup_singleton _, fun k hk k' hk' he => ?_⟩
        obtain ⟨m, hmem, rfl⟩ := List.mem_map.1 hk
        rw [List.map_singleton, List.mem_singleton] at hk'
        exact hfree m hmem (he.trans hk')
      staleNodup := hs.staleNodup.sublist (List.filter_sublist.map _)
      apart := fun m h st hst => by
        obtain ⟨hst, hk⟩ := hsub st hst
        rcases hmsg m h with h | rfl
        · exact hs.apart m h st hst
        · exact fun he => hk he.symm
      quarantine := fun m h hq => by
        rcases hmsg m h with h | rfl
        · exact hs.quarantine m h hq
        · exact hquar hq
      debt := fun m h => by
        rcases hmsg m h with h | rfl
        · exact (hs.debt m h).mono (howes _) fun i => hasks i _
        · exact hdebt.mono (howes _) fun i => hasks i _
      staleDebt := fun st hst => (hs.staleDebt st (hsub st hst).1).mono (howes _) fun i => hasks i _
      grace := fun st hst i expires h => hs.grace st (hsub st hst).1 i expires (howes _ i expires h)
      held := fun key i expires h => by
        rcases hs.held key i expires (howes key i expires h) with ⟨m, hmem, hk⟩ | ⟨st, hst, hk⟩
        · exact Or.inl ⟨m, List.mem_append_left _ hmem, hk⟩
        · by_cases he : st.key = message.key
          · exact Or.inl ⟨_, List.mem_append_right _ (List.mem_singleton.2 rfl), he.symm.trans hk⟩
          · exact Or.inr ⟨st, List.mem_filter.2 ⟨hst, decide_eq_true he⟩, hk⟩ }

theorem attr_poll (hs : AttrInv replyKey s) (hm : Fresh replyKey s message) {now : Nat} (hnow : now ≤ s.clock) :
    AttrInv replyKey (s.poll message now) := by
  have hp := attr_prune hs hnow
  have hmp : Fresh replyKey { s with queue := s.queue.prune now } message :=
    ⟨hm.id_lt, hm.unasked, hm.unparked, hm.own⟩
  unfold Sys.poll
  rcases s.queue.tryRegister_cases message now with ⟨_, _, _, he⟩ | ⟨st, _, _, he⟩ | ⟨hfree, hadopt, he⟩ <;> rw [he]
  · exact attr_park hp hmp _ _ _ _
  · exact attr_park hp hmp _ _ _ _
  · exact attr_register hp hmp hfree hadopt

/-! ## Resolution -/

/-- The keys of two entries on one side of the queue differ. -/
theorem key_ne_of_nodup {α : Type} {f : α → CorrelationKey} {pre post : List α} {a : α}
    (h : ((pre ++ a :: post).map f).Nodup) : (∀ b ∈ pre ++ post, f b ≠ f a) ∧ ((pre ++ post).map f).Nodup := by
  rw [List.map_append, List.map_cons, List.nodup_middle, List.nodup_cons, ← List.map_append] at h
  exact ⟨fun b hb he => h.1 (he ▸ List.mem_map_of_mem hb), h.2⟩

/-- A pending message is the one that leaves, or it stays. -/
theorem mem_messages_iff {pre post : List PendingMessage} (hl : s.queue.messages = pre ++ m :: post)
    {m' : PendingMessage} : m' ∈ s.queue.messages ↔ m' = m ∨ m' ∈ pre ++ post := by
  rw [hl, List.perm_middle.mem_iff, List.mem_cons]

theorem AttrInv.id_ne (hs : AttrInv replyKey s) {pre post : List PendingMessage}
    (hl : s.queue.messages = pre ++ m :: post) : ∀ m' ∈ pre ++ post, m'.id ≠ m.id := by
  intro m' hm' he
  obtain ⟨a, ha, hr, _⟩ := hs.pending m ((mem_messages_iff hl).2 (.inl rfl))
  obtain ⟨a', ha', hr', _⟩ := hs.pending m' ((mem_messages_iff hl).2 (.inr hm'))
  have hn := hs.nodup
  rw [hl] at hn
  rw [he, ha] at ha'
  cases ha'
  exact (key_ne_of_nodup hn).1 m' hm' (by rw [m'.key_eq, m.key_eq, ← hr', hr])

/-- The stale keys, with that of a message that leaves owed `n` replies. -/
theorem mem_stale_iff {n : Nat} {st : StaleKey} :
    (st ∈ if 0 < n then s.queue.stale ++ [m.owing n s.clock] else s.queue.stale) ↔
      st ∈ s.queue.stale ∨ 0 < n ∧ st = m.owing n s.clock := by
  split
  · rename_i hpos
    rw [List.mem_append, List.mem_singleton, and_iff_right hpos]
  · rename_i hzero
    rw [or_iff_left fun h => hzero h.1]

/-- A pending message leaves the queue, and every reply that may still come under its key is owed. -/
theorem attr_leave (hs : AttrInv replyKey s) {pre post : List PendingMessage} (hl : s.queue.messages = pre ++ m :: post)
    {n : Nat} {debts : Finset Nat} (hc : debts.card ≤ n)
    (hd : ∀ i expires, s.Owes m.key i expires → i ∈ debts ∧ s.Asks i m.request)
    (hself : ∀ a, s.asked m.id = some a → a.replied = false → m.id ∈ debts) (kw : List Nat) :
    AttrInv replyKey (({ s with queue := ⟨pre ++ post,
      if 0 < n then s.queue.stale ++ [m.owing n s.clock] else s.queue.stale, kw⟩ } : Sys).leave m.id) := by
  have hmem : m ∈ s.queue.messages := (mem_messages_iff hl).2 (.inl rfl)
  have hsub : ∀ m' ∈ pre ++ post, m' ∈ s.queue.messages := fun m' h => (mem_messages_iff hl).2 (.inr h)
  obtain ⟨a, ha, hreq, hleft⟩ := hs.pending m hmem
  have hn := hs.nodup
  rw [hl] at hn
  obtain ⟨hkeys, hnodup⟩ := key_ne_of_nodup hn
  have hids := hs.id_ne hl
  obtain ⟨stale, hstale⟩ : ∃ stale, stale = if 0 < n then s.queue.stale ++ [m.owing n s.clock] else s.queue.stale :=
    ⟨_, rfl⟩
  rw [← hstale]
  have hcases : ∀ st, st ∈ stale ↔ st ∈ s.queue.stale ∨ 0 < n ∧ st = m.owing n s.clock := fun st => by
    rw [hstale, mem_stale_iff]
  have hleave : ({ s with queue := ⟨pre ++ post, stale, kw⟩ } : Sys).leave m.id =
      ({ s with queue := ⟨pre ++ post, stale, kw⟩ } : Sys).setAsked m.id { a with left := some s.clock } := by
    unfold Sys.leave
    rw [ha]
  rw [hleave]
  set s' := ({ s with queue := ⟨pre ++ post, stale, kw⟩ } : Sys).setAsked m.id { a with left := some s.clock } with hs'
  have hback : ∀ i b, s'.asked i = some b →
      (i = m.id ∧ b = { a with left := some s.clock }) ∨ (i ≠ m.id ∧ s.asked i = some b) := fun _ _ => Sys.of_setAsked
  have howes : ∀ key i expires, s'.Owes key i expires →
      (i = m.id ∧ i ∈ debts ∧ key = m.key ∧ expires = s.clock + staleReplyGrace) ∨
      (i ≠ m.id ∧ s.Owes key i expires) := by
    intro key i expires h
    rcases Sys.owes_setAsked h with ⟨rfl, hr, hk, t, ht, he⟩ | h
    · cases ht
      exact Or.inl ⟨rfl, hself a ha hr, by rw [m.key_eq, ← hreq]; exact hk.symm, he⟩
    · exact Or.inr h
  have hother : ∀ key, key ≠ m.key → ∀ i expires, s'.Owes key i expires → s.Owes key i expires := by
    intro key hk i expires h
    rcases howes key i expires h with ⟨_, _, he, _⟩ | ⟨_, h⟩
    · exact absurd he hk
    · exact h
  have hasks : ∀ i request, s.Asks i request → s'.Asks i request := by
    rintro i request h
    exact Sys.asks_setAsked (s := { s with queue := ⟨pre ++ post, stale, kw⟩ }) (a := { a with left := some s.clock })
      ha rfl h
  have hself' : s'.Asks m.id m.request := ⟨_, Sys.setAsked_self _ _ _, hreq⟩
  have hdebt : ∀ i expires, s'.Owes m.key i expires → i ∈ debts ∧ s'.Asks i m.request := by
    intro i expires h
    rcases howes _ i expires h with ⟨rfl, hi, _, _⟩ | ⟨_, h⟩
    · exact ⟨hi, hself'⟩
    · exact ⟨(hd i expires h).1, hasks i _ (hd i expires h).2⟩
  have hpos : ∀ i expires, s'.Owes m.key i expires → 0 < n := fun i expires h =>
    Nat.lt_of_lt_of_le (Finset.card_pos.2 ⟨i, (hdebt i expires h).1⟩) hc
  exact
    { fresh := fun i b hb => by
        rcases hback i b hb with ⟨rfl, _⟩ | ⟨_, hb⟩
        · exact hs.fresh m.id a ha
        · exact hs.fresh i b hb
      parkedFresh := fun p hp => by
        refine ⟨(hs.parkedFresh p hp).1, ?_⟩
        rw [hs', Sys.setAsked_ne]
        · exact (hs.parkedFresh p hp).2
        · intro he
          exact absurd ((hs.parkedFresh p hp).2.symm.trans (he ▸ ha)) (Option.some_ne_none a).symm
      parkedNodup := hs.parkedNodup
      parkedOwn := hs.parkedOwn
      own := fun m' h => hs.own m' (hsub m' h)
      staleOwn := fun st hst => by
        rcases (hcases st).1 hst with h | ⟨-, rfl⟩
        · exact hs.staleOwn st h
        · exact hs.own m hmem
      pending := fun m' h => by
        obtain ⟨b, hb, hr⟩ := hs.pending m' (hsub m' h)
        exact ⟨b, by rw [hs', Sys.setAsked_ne _ (hids m' h)]; exact hb, hr⟩
      waiting := fun i b hb hbl => by
        rcases hback i b hb with ⟨_, rfl⟩ | ⟨hi, hb⟩
        · cases hbl
        · obtain ⟨m', hm', hid⟩ := hs.waiting i b hb hbl
          rcases (mem_messages_iff hl).1 hm' with rfl | h
          · exact absurd hid.symm hi
          · exact ⟨m', h, hid⟩
      past := fun i b t hb ht => by
        rcases hback i b hb with ⟨_, rfl⟩ | ⟨_, hb⟩
        · cases ht
          exact Nat.le_refl _
        · exact hs.past i b t hb ht
      nodup := hnodup
      staleNodup := by
        show (stale.map _).Nodup
        rw [hstale]
        split
        · rw [List.map_append, List.nodup_append]
          refine ⟨hs.staleNodup, List.nodup_singleton _, fun k hk k' hk' he => ?_⟩
          obtain ⟨st, hst, rfl⟩ := List.mem_map.1 hk
          rw [List.map_singleton, List.mem_singleton] at hk'
          exact hs.apart m hmem st hst (he.trans hk').symm
        · exact hs.staleNodup
      apart := fun m' h st hst => by
        rcases (hcases st).1 hst with hst | ⟨-, rfl⟩
        · exact hs.apart m' (hsub m' h) st hst
        · exact hkeys m' h
      quarantine := fun m' h => hs.quarantine m' (hsub m' h)
      debt := fun m' h =>
        (hs.debt m' (hsub m' h)).mono (hother _ (hkeys m' h)) fun i => hasks i _
      staleDebt := fun st hst => by
        rcases (hcases st).1 hst with hst | ⟨-, rfl⟩
        · exact (hs.staleDebt st hst).mono (hother _ (hs.apart m hmem st hst).symm) fun i => hasks i _
        · exact ⟨debts, hc, hdebt⟩
      grace := fun st hst i expires h => by
        rcases howes _ i expires h with ⟨_, _, hk, rfl⟩ | ⟨_, h⟩
        · rcases (hcases st).1 hst with hst | ⟨-, rfl⟩
          · exact absurd hk.symm (hs.apart m hmem st hst)
          · exact Nat.le_refl _
        · rcases (hcases st).1 hst with hst | ⟨-, rfl⟩
          · exact hs.grace st hst i expires h
          · obtain ⟨b, t, hb, _, _, ht, rfl, _⟩ := h
            exact Nat.add_le_add_right (hs.past i b t hb ht) _
      held := fun key i expires h => by
        by_cases hk : key = m.key
        · subst hk
          exact Or.inr ⟨_, (hcases _).2 (.inr ⟨hpos i expires h, rfl⟩), rfl⟩
        · rcases hs.held key i expires (hother key hk i expires h) with ⟨m', hm', he⟩ | ⟨st, hst, he⟩
          · rcases (mem_messages_iff hl).1 hm' with rfl | h
            · exact absurd he.symm hk
            · exact Or.inl ⟨m', h, he⟩
          · exact Or.inr ⟨st, (hcases st).2 (.inl hst), he⟩ }

/-- The stale keys change to ones that stand for the same replies or for fewer of them. -/
theorem attr_stale (hs : AttrInv replyKey s) {stale : List StaleKey} (kw : List Nat)
    (hnodup : (stale.map (·.key)).Nodup)
    (hfrom : ∀ st ∈ stale, ∃ st' ∈ s.queue.stale, st'.key = st.key ∧ st'.responsePredicate = st.responsePredicate ∧
      st'.expires = st.expires) (hdebt : ∀ st ∈ stale, s.Debt st.key st.request st.outstanding)
    (hheld : ∀ st ∈ s.queue.stale, (∃ i expires, s.Owes st.key i expires) → ∃ st' ∈ stale, st'.key = st.key) :
    AttrInv replyKey { s with queue := ⟨s.queue.messages, stale, kw⟩ } :=
  { hs with
    staleOwn := fun st hst => by
      obtain ⟨st', hst', hk, hp, _⟩ := hfrom st hst
      rw [← hk, ← hp]
      exact hs.staleOwn st' hst'
    staleNodup := hnodup
    apart := fun m hm st hst => by
      obtain ⟨st', hst', hk, _⟩ := hfrom st hst
      rw [← hk]
      exact hs.apart m hm st' hst'
    staleDebt := hdebt
    grace := fun st hst i expires h => by
      obtain ⟨st', hst', hk, _, he⟩ := hfrom st hst
      rw [← he]
      exact hs.grace st' hst' i expires (hk ▸ h)
    held := fun key i expires h => by
      rcases hs.held key i expires h with hm | ⟨st, hst, rfl⟩
      · exact Or.inl hm
      · obtain ⟨st', hst', hk⟩ := hheld st hst ⟨i, expires, h⟩
        exact Or.inr ⟨st', hst', hk⟩ }

theorem mem_of_middle {α : Type} {pre post : List α} {a b : α} (h : b ∈ pre ++ post) : b ∈ pre ++ a :: post := by
  rcases List.mem_append.1 h with h | h
  · exact List.mem_append_left _ h
  · exact List.mem_append_right _ (List.mem_cons_of_mem _ h)

theorem mem_middle_cases {α : Type} {pre post : List α} {a b : α} (h : b ∈ pre ++ a :: post) :
    b = a ∨ b ∈ pre ++ post := by
  rcases List.mem_append.1 h with h | h
  · exact Or.inr (List.mem_append_left _ h)
  rcases List.mem_cons.1 h with h | h
  · exact Or.inl h
  · exact Or.inr (List.mem_append_right _ h)

/-- An abandoned request's reply is counted off the stale key it was owed under. -/
theorem attr_discard (hs : AttrInv replyKey s) {pre post : List StaleKey} {st : StaleKey}
    (hl : s.queue.stale = pre ++ st :: post) (hd : s.Debt st.key st.request (st.outstanding - 1)) (kw : List Nat) :
    AttrInv replyKey { s with queue := ⟨s.queue.messages,
      pre ++ { st with outstanding := st.outstanding - 1 } :: post, kw⟩ } := by
  have hn := hs.staleNodup
  rw [hl] at hn
  refine attr_stale hs kw ?_ (fun x hx => ?_) (fun x hx => ?_) (fun x hx _ => ?_)
  · simpa using hn
  · rcases mem_middle_cases hx with rfl | hx
    · exact ⟨st, by rw [hl]; simp, rfl, rfl, rfl⟩
    · exact ⟨x, by rw [hl]; exact mem_of_middle hx, rfl, rfl, rfl⟩
  · rcases mem_middle_cases hx with rfl | hx
    · exact hd
    · exact hs.staleDebt x (by rw [hl]; exact mem_of_middle hx)
  · rw [hl] at hx
    rcases mem_middle_cases hx with rfl | hx
    · exact ⟨_, List.mem_append_right _ List.mem_cons_self, rfl⟩
    · exact ⟨x, mem_of_middle hx, rfl⟩

/-- The last reply owed under a stale key frees it. -/
theorem attr_free (hs : AttrInv replyKey s) {pre post : List StaleKey} {st : StaleKey}
    (hl : s.queue.stale = pre ++ st :: post) (hd : s.Debt st.key st.request 0) (kw : List Nat) :
    AttrInv replyKey { s with queue := ⟨s.queue.messages, pre ++ post, kw⟩ } := by
  have hn := hs.staleNodup
  rw [hl] at hn
  refine attr_stale hs kw (key_ne_of_nodup hn).2 (fun x hx => ?_) (fun x hx => ?_) (fun x hx hex => ?_)
  · exact ⟨x, by rw [hl]; exact mem_of_middle hx, rfl, rfl, rfl⟩
  · exact hs.staleDebt x (by rw [hl]; exact mem_of_middle hx)
  · rw [hl] at hx
    rcases mem_middle_cases hx with rfl | hx
    · obtain ⟨i, expires, h⟩ := hex
      exact absurd h (hd.none i expires)
    · exact ⟨x, hx, rfl⟩

/-- A timely message that some entry takes is a reply: to the pending request of that key, or one that is owed. -/
theorem origin_of_own (hs : AttrInv replyKey s) (ht : Timely replyKey s (.incoming origin msg))
    (hk : replyKey msg = some key) (hheld : s.Holds key) :
    ∃ id a, origin = some id ∧ s.asked id = some a ∧
      ((∃ m ∈ s.queue.messages, m.id = id ∧ m.key = key) ∨ ∃ expires, s.Owes key id expires) := by
  cases origin with
  | none => exact absurd hheld (ht key hk)
  | some id =>
    obtain ⟨a, ha, _, hr, hkey, hin⟩ := ht
    have he : a.request.header = key := Option.some.inj (hkey.symm.trans hk)
    refine ⟨id, a, rfl, ha, ?_⟩
    cases hl : a.left with
    | none =>
      obtain ⟨m, hm, hid⟩ := hs.waiting id a ha hl
      obtain ⟨b, hb, hreq, _⟩ := hs.pending m hm
      rw [hid, ha] at hb
      cases hb
      exact Or.inl ⟨m, hm, hid, by rw [m.key_eq, ← hreq, he]⟩
    | some t => exact Or.inr ⟨_, a, t, ha, hr, he, hl, rfl, hin t hl⟩

theorem AttrInv.eq_of_key (hs : AttrInv replyKey s) {m' : PendingMessage} (hm : m ∈ s.queue.messages)
    (hm' : m' ∈ s.queue.messages) (hk : m.key = m'.key) : m = m' :=
  List.inj_on_of_nodup_map hs.nodup hm hm' hk

/-- Once its reply has come, a request owes none. -/
theorem owes_replied (ha : s.asked id = some a) (h : (s.markReplied (some id)).Owes key i expires) :
    i ≠ id ∧ s.Owes key i expires := by
  rw [Sys.markReplied_some ha] at h
  rcases Sys.owes_setAsked h with ⟨_, hr, _⟩ | h
  · cases hr
  · exact h

theorem asks_markReplied (ha : s.asked id = some a) (h : s.Asks i request) :
    (s.markReplied (some id)).Asks i request := by
  rw [Sys.markReplied_some ha]
  exact Sys.asks_setAsked (a := { a with replied := true }) ha rfl h

/-- **Who answers a pending request**: its own reply or, where it adopted some, a reply owed to its bytes. -/
theorem AttrInv.answered (hs : AttrInv replyKey s) (ht : Timely replyKey s (.incoming origin msg))
    (hm : m ∈ s.queue.messages) (hp : m.responsePredicate msg = true) :
    ∃ id, origin = some id ∧ s.Asks id m.request ∧ (m.abandoned = .quarantine → id = m.id) := by
  obtain ⟨id, a, rfl, ha, ⟨m', hm', hid, hk⟩ | ⟨expires, h⟩⟩ :=
    origin_of_own hs ht (hs.own m hm msg hp) (Or.inl ⟨m, hm, rfl⟩)
  · rw [hs.eq_of_key hm' hm hk] at hid
    obtain ⟨b, hb, hr, _⟩ := hs.pending m hm
    exact ⟨id, rfl, ⟨b, hid ▸ hb, hr⟩, fun _ => hid.symm⟩
  · have hd := hs.debt m hm
    refine ⟨id, rfl, (hd.choose_spec.2 id expires h).2, fun hq => ?_⟩
    rw [hs.quarantine m hm hq] at hd
    exact absurd h (hd.none id expires)

/-- The account of the key of a pending request once a reply has answered it. -/
theorem debt_answered (hs : AttrInv replyKey s) (ha : s.asked id = some a) (hm : m ∈ s.queue.messages)
    (ho : (∃ m' ∈ s.queue.messages, m'.id = id ∧ m'.key = m.key) ∨ ∃ expires, s.Owes m.key id expires) :
    ∃ debts : Finset Nat, debts.card ≤ m.extraReplies ∧
      (∀ i expires, (s.markReplied (some id)).Owes m.key i expires →
        i ∈ debts ∧ (s.markReplied (some id)).Asks i m.request) ∧
      ∀ b, (s.markReplied (some id)).asked m.id = some b → b.replied = false → m.id ∈ debts := by
  rcases ho with ⟨m', hm', hid, hk⟩ | ⟨expires, h⟩
  · rw [hs.eq_of_key hm' hm hk] at hid
    obtain ⟨debts, hc, hd⟩ := (hs.debt m hm).mono (fun i e h => (owes_replied ha h).2) fun i => asks_markReplied ha
    refine ⟨debts, hc, hd, fun b hb hr => ?_⟩
    rw [Sys.markReplied_some ha, hid, Sys.setAsked_self] at hb
    cases hb
    cases hr
  · obtain ⟨hpos, debts, hc, hd⟩ :=
      (hs.debt m hm).settle h (fun i e h => owes_replied ha h) fun i => asks_markReplied ha
    refine ⟨insert m.id debts, (Finset.card_insert_le _ _).trans (by omega), fun i e h => ?_, fun _ _ _ =>
      Finset.mem_insert_self _ _⟩
    exact ⟨Finset.mem_insert_of_mem (hd i e h).1, (hd i e h).2⟩

theorem attr_receive (hs : AttrInv replyKey s) (ht : Timely replyKey s (.incoming origin msg)) :
    AttrInv replyKey (s.receive origin msg) := by
  have hmark := attr_markReplied hs origin
  unfold Sys.receive
  rcases s.queue.dispatch_cases msg s.clock with
    ⟨pre, m, post, hl, hp, he⟩ | ⟨pre, st, post, hl, hp, h⟩ | he
  · have hm : m ∈ s.queue.messages := by rw [hl]; simp
    obtain ⟨id, a, rfl, ha, ho⟩ := origin_of_own hs ht (hs.own m hm msg hp) (Or.inl ⟨m, hm, rfl⟩)
    obtain ⟨debts, hc, hd, hself⟩ := debt_answered hs ha hm ho
    rw [he]
    rw [Sys.markReplied_some ha] at hmark hd hself
    have := attr_leave hmark hl hc hd hself []
    dsimp only
    rw [Sys.markReplied_queue, Sys.markReplied_some ha]
    exact this
  · have hst : st ∈ s.queue.stale := by rw [hl]; simp
    obtain ⟨id, a, rfl, ha, ⟨m, hm, _, hk⟩ | ⟨expires, ho⟩⟩ :=
      origin_of_own hs ht (hs.staleOwn st hst msg hp) (Or.inr ⟨st, hst, rfl⟩)
    · exact absurd hk (hs.apart m hm st hst)
    obtain ⟨hpos, hdebt⟩ :=
        (hs.staleDebt st hst).settle ho (fun i e h => owes_replied ha h) fun i => asks_markReplied ha
    rw [Sys.markReplied_some ha] at hmark hdebt
    rcases h with ⟨h1, he⟩ | ⟨h1, he⟩
    · rw [he]
      dsimp only
      rw [Sys.markReplied_queue, Sys.markReplied_some ha]
      rw [show st.outstanding - 1 = 0 by omega] at hdebt
      exact attr_free hmark hl hdebt []
    · rw [he]
      dsimp only
      rw [Sys.markReplied_queue, Sys.markReplied_some ha]
      exact attr_discard hmark hl hdebt _
  · rw [he]
    exact hmark

/-- A request that is given up on owes its own reply and those it had adopted. -/
theorem attr_drop (hs : AttrInv replyKey s) (id : Nat) :
    AttrInv replyKey (if s.IsPending id then ({ s with queue := s.queue.abandon id s.clock } : Sys).leave id
      else { s with queue := s.queue.abandon id s.clock }) := by
  rcases s.queue.abandon_cases id s.clock with ⟨hno, he⟩ | ⟨pre, m, post, hl, rfl, he⟩
  · rw [if_neg (by rintro ⟨m, hm, hid⟩; exact hno m hm hid), he]
    exact hs
  · have hm : m ∈ s.queue.messages := by rw [hl]; simp
    obtain ⟨debts, hc, hd⟩ := hs.debt m hm
    have hcard : (insert m.id debts).card ≤ m.extraReplies + 1 :=
      (Finset.card_insert_le _ _).trans (Nat.succ_le_succ hc)
    have hleave := attr_leave hs hl hcard
      (fun i expires h => ⟨Finset.mem_insert_of_mem (hd i expires h).1, (hd i expires h).2⟩)
      (fun _ _ _ => Finset.mem_insert_self _ _) []
    rw [if_pos (Nat.succ_pos _)] at hleave
    rw [if_pos ⟨m, hm, rfl⟩, he]
    exact hleave

theorem attr_init : AttrInv replyKey {} where
  fresh := fun _ _ h => by cases h
  parkedFresh := fun _ h => absurd h List.not_mem_nil
  parkedNodup := List.nodup_nil
  parkedOwn := fun _ h => absurd h List.not_mem_nil
  own := fun _ h => absurd h List.not_mem_nil
  staleOwn := fun _ h => absurd h List.not_mem_nil
  pending := fun _ h => absurd h List.not_mem_nil
  waiting := fun _ _ h => by cases h
  past := fun _ _ _ h => by cases h
  nodup := List.nodup_nil
  staleNodup := List.nodup_nil
  apart := fun _ h => absurd h List.not_mem_nil
  quarantine := fun _ h => absurd h List.not_mem_nil
  debt := fun _ h => absurd h List.not_mem_nil
  staleDebt := fun _ h => absurd h List.not_mem_nil
  grace := fun _ h => absurd h List.not_mem_nil
  held := fun _ _ _ h => by obtain ⟨_, _, h, _⟩ := h; cases h

/-- **Every timely event keeps the account.** -/
theorem attr_step (c : HidppChannel) (s : Sys) (e : Ev) (s' : Sys) (hs : AttrInv replyKey s) (ht : Timely replyKey s e)
    (h : step c s e = some s') : AttrInv replyKey s' := by
  cases e with
  | tick elapsed => cases h; exact attr_tick hs elapsed
  | start msg abandoned responsePredicate now =>
    simp only [step] at h
    split at h
    · rename_i hg
      cases h
      have hs1 : AttrInv replyKey { s with pendingMessageId := s.pendingMessageId + 1 } :=
        { hs with
          fresh := fun id a ha => Nat.lt_succ_of_lt (hs.fresh id a ha)
          parkedFresh := fun p hp => ⟨Nat.lt_succ_of_lt (hs.parkedFresh p hp).1, (hs.parkedFresh p hp).2⟩ }
      refine attr_poll hs1 ⟨Nat.lt_succ_self _, ?_, ?_, ?_⟩ hg.2
      · -- the id is new, so the registry does not know it
        cases ha : s.asked s.pendingMessageId with
        | none => rfl
        | some a => exact absurd (hs.fresh _ a ha) (Nat.lt_irrefl _)
      · intro hmem
        obtain ⟨p, hp, he⟩ := List.mem_map.1 hmem
        exact absurd (hs.parkedFresh p hp).1 (by rw [he]; exact Nat.lt_irrefl _)
      · show OwnKeyOnly replyKey responsePredicate (c.normalizeOutgoing msg).header
        rw [c.header_normalizeOutgoing msg]
        exact ht
    · cases h
  | retry id now =>
    simp only [step] at h
    split at h
    · cases h
    rename_i p hp
    split at h
    · rename_i hg
      cases h
      have hmem := List.mem_of_find?_eq_some hp
      obtain ⟨hid, hasked⟩ := hs.parkedFresh p hmem
      refine attr_poll (attr_unpark hs _) ⟨hid, hasked, ?_, hs.parkedOwn p hmem⟩
        hg.2
      obtain ⟨pre, post, hl, he, _⟩ := find_eraseP hp
      have hn := hs.parkedNodup
      rw [hl, List.map_append, List.map_cons, List.nodup_middle, List.nodup_cons, ← List.map_append] at hn
      show p.message.id ∉ (s.parked.eraseP _).map _
      rw [he]
      exact hn.1
    · cases h
  | cancelParked id => cases h; exact attr_unpark hs _
  | send id =>
    simp only [step] at h
    split at h
    · cases h
    rename_i a ha
    split at h
    · cases h
    · cases h
      exact attr_setAsked hs ha rfl rfl fun hr => hr
  | incoming origin msg => cases h; exact attr_receive hs ht
  | drop id => cases h; exact attr_drop hs id

/-- **A pending request is answered by the reply to its own send** if it quarantines, and by a reply to a byte-identical
request if it adopts. -/
theorem pending_answered_by_own_reply {replyKey : HidppMessage → Option CorrelationKey} {c : HidppChannel}
    {es : List Ev}
    {origin : Option Nat} {msg : HidppMessage} {s : Sys} {m : PendingMessage} {queue : PendingQueue}
    (h : run (step c) {} es = some s) (ht : Along (step c) (Timely replyKey) {} (es ++ [.incoming origin msg]))
    (hm : s.queue.dispatch msg s.clock = (some m, queue)) :
    match m.abandoned with
    | .quarantine => origin = some m.id
    | .adoptIdentical => ∃ id, origin = some id ∧ s.Asks id m.request := by
  have hes := (along_append es [.incoming origin msg] _).1 ht
  have hs : AttrInv replyKey s := along_inv _ _ (attr_step c) es {} s attr_init hes.1 h
  obtain ⟨hmem, hp⟩ : m ∈ s.queue.messages ∧ m.responsePredicate msg = true := by
    rcases s.queue.dispatch_cases msg s.clock with
      ⟨pre, m', post, hl, hp, he⟩ | ⟨pre, st, post, _, _, ⟨_, he⟩ | ⟨_, he⟩⟩ | he <;> rw [hm] at he
    · cases he
      exact ⟨by rw [hl]; simp, hp⟩
    all_goals cases he
  obtain ⟨id, rfl, hask, hq⟩ := hs.answered (hes.2 s h).1 hmem hp
  cases hab : m.abandoned with
  | quarantine => rw [hq hab]
  | adoptIdentical => exact ⟨id, rfl, hask⟩

/-- A request is abandoned and its reply comes late; the next one under its key waits for that, and is then answered by
its own reply. -/
theorem sent_answered_by_own_reply :
    let msg := HidppMessage.short (Vector.replicate 6 0)
    let start := Ev.start msg .quarantine (fun reply => reply.header = msg.header) 0
    let es := [start, .send 0, .drop 0, start, .incoming (some 0) msg, .retry 1 0, .send 1]
    ∃ s m queue, run (step ⟨true, true⟩) {} es = some s ∧ s.queue.dispatch msg s.clock = (some m, queue) ∧
      some 1 = some m.id := by
  intro msg start es
  obtain ⟨s, m, queue, h, hm, hq⟩ : ∃ s m queue, run (step ⟨true, true⟩) {} es = some s ∧
      s.queue.dispatch msg s.clock = (some m, queue) ∧ m.abandoned = .quarantine := ⟨_, _, _, rfl, rfl, rfl⟩
  have hown : OwnKeyOnly (fun reply => some reply.header) (fun reply => reply.header = msg.header) msg.header :=
    fun reply hr => congrArg some (of_decide_eq_true hr)
  have ht : Along (step ⟨true, true⟩) (Timely fun reply => some reply.header) {} (es ++ [.incoming (some 1) msg]) := by
    refine along_cons rfl hown (along_cons rfl trivial (along_cons rfl trivial (along_cons rfl hown ?_)))
    refine along_cons rfl ⟨_, rfl, rfl, rfl, rfl, fun t ht => by cases ht; decide⟩ ?_
    refine along_cons rfl trivial (along_cons rfl trivial ?_)
    exact ⟨⟨_, rfl, rfl, rfl, rfl, fun t ht => by cases ht⟩, fun _ _ => trivial⟩
  have := pending_answered_by_own_reply h ht hm
  rw [hq] at this
  exact ⟨s, m, queue, h, hm, this⟩

end Hidpp
end OpenLogi
