import Kademlia.Proofs.Exchange.Quiet

/-!
# When nobody answers

A request waits for its reply until its deadline, which is never farther away than the time for which
replies are waited for. When all deadlines have come nothing waits any more. Whoever holds a ticket
for which no response was given by then is given none at all: it finds an error.
-/

namespace Kademlia.Exchange.Multiplexer

open Bencode Wire

/-- A multiplexer that waits so long for each reply, and for none beyond an instant. -/
structure Prompt (timeout limit : Nat) (m : Multiplexer) : Prop where
  sound : m.Sound
  timeout : m.timeout = timeout
  deadlines : ∀ a, ∀ t ∈ m.transactions a, t.deadline ≤ limit

/-- No response that was given for a ticket is still there to be taken. -/
def Unanswered (m : Multiplexer) (ticket : Ticket) : Prop :=
  ∀ d ∈ m.delivered, d.ticket = ticket → ∀ r, d.reply ≠ .ok r

variable {m m' : Multiplexer} {timeout limit now : Nat} {sent : List Datagram} {ticket : Ticket}

namespace Prompt

lemma mono {limit' : Nat} (h : m.Prompt timeout limit) (hle : limit ≤ limit') :
    m.Prompt timeout limit' :=
  ⟨h.sound, h.timeout, fun a t ht => (h.deadlines a t ht).trans hle⟩

/-- What was sent and what was given play no part. -/
lemma congr (h : m.Prompt timeout limit) (hsessions : m'.sessions = m.sessions)
    (htimeout : m'.timeout = m.timeout) : m'.Prompt timeout limit := by
  refine ⟨h.sound.congr hsessions htimeout, htimeout.trans h.timeout, fun a t ht => ?_⟩
  rw [transactions, session, hsessions, htimeout] at ht
  exact h.deadlines a t ht

lemma call (h : m.Prompt timeout limit) (transport : Transport) (self : Id) (address : Address)
    (expected : Option Id) (r : Request) (hnow : now + timeout ≤ limit) :
    (m.call transport self address expected r now).2.Prompt timeout limit := by
  unfold Multiplexer.call
  cases r.arguments self with
  | error e => exact h.congr rfl rfl
  | ok arguments =>
    obtain ⟨-, -, htimeout, hsound, -, hkept⟩ :=
      h.sound.request transport address r.method arguments now
    refine ⟨hsound, htimeout.trans h.timeout, fun a t ht => ?_⟩
    rcases hkept a t ht with ht | ⟨-, -, -, hdeadline⟩
    · exact h.deadlines a t ht
    · rw [hdeadline, h.timeout]
      exact hnow

lemma poll (h : m.Prompt timeout limit) (c : Call) : (c.poll m).2.Prompt timeout limit := by
  obtain ⟨delivered, hpoll, -⟩ := m.exists_snd_poll c
  exact hpoll ▸ h.congr rfl rfl

lemma expire (h : m.Prompt timeout limit) (now : Nat) : (m.expire now).Prompt timeout limit := by
  refine ⟨h.sound.expire now, h.timeout, fun a t ht => ?_⟩
  rw [h.sound.transactions_expire] at ht
  exact h.deadlines a t (List.mem_of_mem_filter ht)

lemma stop (h : m.Prompt timeout limit) : m.stop.Prompt timeout limit :=
  ⟨.stop m, h.timeout, fun _ _ ht => absurd ht List.not_mem_nil⟩

lemma handleDatagram {σ : Type} (h : m.Prompt timeout limit) (transport : Transport)
    (respond : Responder σ) (d : Datagram) (state : σ) :
    (m.handleDatagram transport respond d state).1.Prompt timeout limit := by
  obtain ⟨-, htimeout, hsound, -, hkept⟩ := h.sound.handleDatagram transport respond d state
  exact ⟨hsound, htimeout.trans h.timeout, fun a t ht => h.deadlines a t (hkept a t ht)⟩

/-- When all deadlines have come, nothing waits any more. -/
lemma transactions_expire (h : m.Prompt timeout limit) (hnow : limit ≤ now) (a : Address) :
    (m.expire now).transactions a = [] := by
  rw [h.sound.transactions_expire, List.filter_eq_nil_iff]
  intro t ht
  simpa using (h.deadlines a t ht).trans hnow

end Prompt

lemma Unanswered.quiet (h : m.Unanswered ticket) (hquiet : m.Quiet m') : m'.Unanswered ticket :=
  fun d hd hticket r hr => h d (hquiet.answered d hd r hr) hticket r hr

/-- No response is given for a ticket before it is given out. -/
lemma Grounded.unanswered (h : m.Grounded sent) (hticket : m.nextTicket ≤ ticket) :
    m.Unanswered ticket := by
  rintro d hd rfl r hr
  exact hticket.not_gt (h.answered d hd r hr)

/-- Without a response, what comes out of a call is an error. -/
lemma Unanswered.exists_error {c : Call} (h : m.Unanswered c.ticket) {reply : Reply}
    (hpoll : (c.poll m).1 = some reply) : ∃ e, reply = .error e := by
  cases reply with
  | error e => exact ⟨e, rfl⟩
  | ok r => exact absurd rfl (h _ (Call.exists_of_poll hpoll).1 rfl r)

/-- If nothing comes out of a call its request waits, and nothing was given for it. -/
lemma Sound.waits_of_poll (h : m.Sound) {c : Call} (hpoll : (c.poll m).1 = none) :
    m.Unanswered c.ticket ∧ ∃ a, ∃ t ∈ m.transactions a, t.ticket = c.ticket := by
  unfold Call.poll collect at hpoll
  cases hfind : m.delivered.find? fun d => d.ticket == c.ticket with
  | some d => simp [hfind] at hpoll
  | none =>
    refine ⟨fun d hd hticket => ?_, ?_⟩
    · exact absurd (by simpa using hticket) (List.find?_eq_none.1 hfind d hd)
    · simp only [hfind] at hpoll
      split at hpoll
      · simp at hpoll
      · next m' hwaits =>
        split at hwaits
        · next hany =>
          obtain ⟨s, hs, hholds⟩ := List.any_eq_true.1 hany
          obtain ⟨t, ht, hticket⟩ := List.mem_map.1 (Pending.holds_iff.1 hholds)
          exact ⟨s.address, t, by rwa [transactions, h.session_eq hs], hticket⟩
        · simp at hwaits
      · simp at hpoll

end Kademlia.Exchange.Multiplexer
