import Kademlia.Proofs.Exchange.Run
import Kademlia.Proofs.Exchange.Step

/-!
# Sessions do not interfere

Transaction identifiers are compared within the session with the sender of a datagram and nowhere
else. So whoever knows or guesses the identifier of a transaction can only end it from the address
its request was sent to: `sessions_isolated` says what a datagram can do to the others, in every run.
-/

namespace Kademlia.Exchange

open Bencode Wire

variable {σ : Type}

lemma Session.address_handle (s : Session) (transport : Transport) (respond : Responder σ)
    (maxPacket : Nat) (message : Message) (state : σ) :
    (s.handle transport respond maxPacket message state).1.address = s.address := by
  rcases s.handle_cases transport respond maxPacket message state with ⟨heq, -⟩ | ⟨reply, heq, -⟩
  · rw [heq]
  · rw [heq]

namespace Multiplexer

/-- A datagram from port zero, from the own address, or without a message. -/
def Ignores (m : Multiplexer) (d : Datagram) : Prop :=
  d.peer.port = 0 ∨ m.isSelf d.peer = true ∨ ∃ e, Message.decode d.bytes = .error e

lemma handleDatagram_of_ignores {m : Multiplexer} {d : Datagram} (h : m.Ignores d)
    (transport : Transport) (respond : Responder σ) (state : σ) :
    m.handleDatagram transport respond d state = (m, state) := by
  rcases m.handleDatagram_eq transport respond d state with
    heq | ⟨⟨hport, hself⟩, message, hmessage, -⟩
  · exact heq
  · rcases h with h | h | ⟨e, h⟩
    · exact absurd h hport
    · simp [hself] at h
    · simp [hmessage] at h

lemma mem_setSession_iff {m : Multiplexer} {s t : Session} (h : t.address ≠ s.address) :
    t ∈ (m.setSession s).sessions ↔ t ∈ m.sessions := by
  have hne : t ≠ s := fun heq => h (heq ▸ rfl)
  simp [setSession, h, hne]

/-- The sessions with other addresses than the sender's stay as they are. -/
lemma mem_sessions_handleDatagram_iff (m : Multiplexer) (transport : Transport)
    (respond : Responder σ) (d : Datagram) (state : σ) {s : Session} (hs : s.address ≠ d.peer) :
    s ∈ (m.handleDatagram transport respond d state).1.sessions ↔ s ∈ m.sessions := by
  rcases m.handleDatagram_eq transport respond d state with heq | ⟨-, message, -, heq⟩
  · rw [heq]
  · have haddress := (m.session d.peer).address_handle transport respond m.maxPacket message state
    rw [heq]
    change s ∈ (m.setSession _).sessions ↔ s ∈ m.sessions
    apply mem_setSession_iff
    intro hsame
    exact hs ((hsame.trans haddress).trans (m.address_session d.peer))

end Multiplexer

namespace Run

variable {timeout : Nat} {r : Run σ}

/-- A datagram gives no reply, or one to the holder of an unanswered request to its sender, under
the identifier it names. -/
lemma Sound.given_handle (h : r.Sound timeout) (transport : Transport) (respond : Responder σ)
    (d : Datagram) :
    (r.perform (.handle transport respond d)).given = r.given ∨
      ∃ m reply, Message.decode d.bytes = .ok m ∧ replyOf d.peer m = some reply ∧
        ∃ p ∈ r.posted, p.address = d.peer ∧ r.replies p.ticket = 0 ∧
          (∃ t ∈ r.multiplexer.transactions d.peer,
            t.id = m.transaction ∧ t.ticket = p.ticket) ∧
          (r.perform (.handle transport respond d)).given = r.given ++ [⟨p.ticket, reply⟩] := by
  have hgiven (new : List Delivery) (hnew :
      (r.multiplexer.handleDatagram transport respond d r.state).1.delivered =
        r.multiplexer.delivered ++ new) :
      (r.perform (.handle transport respond d)).given = r.given ++ new := by
    rw [given, given, List.append_assoc, ← hnew]
    rfl
  rcases r.multiplexer.handleDatagram_cases transport respond d r.state with
    heq | ⟨-, m, hm, ⟨query, -, -, hdelivered, -⟩ | ⟨reply, hreply, -, -, hend⟩⟩
  · left
    simpa using hgiven [] (by simp [heq])
  · left
    simpa using hgiven [] (by simpa using hdelivered)
  · rcases hend with ⟨hdelivered, -⟩ | ⟨t, ht, hid, hdelivered, -⟩
    · left
      simpa using hgiven [] (by simpa using hdelivered)
    · right
      obtain ⟨p, hp, hticket, haddress, hrecord⟩ := h.recorded d.peer t ht
      have hopen : r.replies p.ticket = 0 := by
        rw [h.unanswered_iff hp]
        exact ⟨t, haddress ▸ ht, hticket, rfl, hrecord⟩
      refine ⟨m, reply, hm, hreply, p, hp, haddress, hopen, ⟨t, ht, hid, hticket.symm⟩, ?_⟩
      rw [hticket]
      exact hgiven _ hdelivered

/-- Sessions are isolated by address. In every run, a datagram leaves the sessions with all addresses
but its sender's as they are, and gives nothing to the holder of a request to another address. It
gives at most one reply: to an unanswered request to its sender whose identifier is the one it
names, and only if it is no request itself. A datagram from port zero, from the own address or
without a message changes nothing and reaches no handler, whatever that would have done. -/
theorem sessions_isolated (own : Address) (timeout maxPacket : Nat) (entropy : Entropy) (state : σ)
    (ops : List (Operation σ)) (transport : Transport) (respond : Responder σ) (d : Datagram) :
    let r := (Run.start own timeout maxPacket entropy state).after ops
    let r' := r.perform (.handle transport respond d)
    (∀ s, s.address ≠ d.peer → (s ∈ r'.multiplexer.sessions ↔ s ∈ r.multiplexer.sessions)) ∧
    (∀ p ∈ r.posted, p.address ≠ d.peer → r'.replies p.ticket = r.replies p.ticket) ∧
    (r'.given = r.given ∨
      ∃ m reply, Message.decode d.bytes = .ok m ∧ (∀ query, m.body ≠ .request query) ∧
        replyOf d.peer m = some reply ∧
        ∃ p ∈ r.posted, p.address = d.peer ∧ r.replies p.ticket = 0 ∧
          (∃ t ∈ r.multiplexer.transactions d.peer,
            t.id = m.transaction ∧ t.ticket = p.ticket) ∧
          r'.given = r.given ++ [⟨p.ticket, reply⟩]) ∧
    (r.multiplexer.Ignores d → r' = r) := by
  intro r r'
  have h : r.Sound timeout := (Sound.start own maxPacket entropy state).after ops
  have hgiven := h.given_handle transport respond d
  refine ⟨?_, ?_, ?_, ?_⟩
  · intro s hs
    exact r.multiplexer.mem_sessions_handleDatagram_iff transport respond d r.state hs
  · intro p hp hne
    rcases hgiven with heq | ⟨m, reply, -, -, q, hq, hpeer, -, -, heq⟩
    · simp only [r', replies, heq]
    · have hticket : q.ticket ≠ p.ticket := by
        intro hsame
        obtain rfl := h.eq_of_ticket hq hp hsame
        exact hne hpeer
      simp [r', replies, heq, hticket]
  · rcases hgiven with heq | ⟨m, reply, hm, hreply, hposted⟩
    · left
      exact heq
    · right
      refine ⟨m, reply, hm, ?_, hreply, hposted⟩
      intro query hquery
      simp [replyOf, hquery] at hreply
  · intro hignores
    have heq := Multiplexer.handleDatagram_of_ignores hignores transport respond r.state
    simp only [r', perform, heq]

end Run

end Kademlia.Exchange
