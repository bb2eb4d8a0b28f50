import Kademlia.Exchange.Session
import Kademlia.Proofs.Wire.Envelope

/-!
# Datagrams on their way

A reader that cuts off the end of a datagram reads the message that was sent or none. The datagram
that answers a request carries what the handlers answered: their payload, perhaps with fewer values,
their error, or the error that says that there was no room.
-/

namespace Kademlia.Wire

open Bencode

/-- The datagram of a message is read as that message whatever follows it. -/
lemma Message.decode_encode_append {m : Message} (hsize : m.encode.length < UInt64.size)
    (htype : ∀ type, m.body = .unknown type → type ∉ [Key.q, Key.r, Key.e]) (rest : Bytes) :
    decode (m.encode ++ rest) = .ok m :=
  (decode_dict hsize rest).trans (mapError_eq_ok.2 (ofDict_entries htype))

lemma Message.decode_encode {m : Message} (hsize : m.encode.length < UInt64.size)
    (htype : ∀ type, m.body = .unknown type → type ∉ [Key.q, Key.r, Key.e]) :
    decode m.encode = .ok m := by
  simpa using decode_encode_append hsize htype []

/-- A message that was cut off somewhere is read as the message that was sent, if at all. -/
lemma Message.eq_of_decode_take {m m' : Message} (hsize : m.encode.length < UInt64.size)
    (htype : ∀ type, m.body = .unknown type → type ∉ [Key.q, Key.r, Key.e]) {n : Nat}
    (h : decode (m.encode.take n) = .ok m') : m' = m := by
  by_cases hall : m.encode.take n = m.encode
  · rw [hall, decode_encode hsize htype] at h
    exact (Except.ok.inj h).symm
  · obtain ⟨e, hcut⟩ := decode_of_prefix hsize (List.take_prefix n _) hall
    rw [decode, encode, hcut] at h
    simp at h

/-- A payload as it was given, or with a front part of its values. -/
def Shortened (given received : Dict) : Prop :=
  received = given ∨ ∃ values n, given.get? Key.values = some (.list values) ∧
    received = given.insert Key.values (.list (values.take n))

/-- A message is sent as it is, which for a response means that it fits. Otherwise it is a response
that is too long, and a part of its values is sent or the error that says how long it was. -/
lemma Message.encodeWithin_cases (m : Message) (limit : Nat) :
    (m.encodeWithin limit = m.encode ∧
      ∀ payload, m.body = .response payload → m.encode.length ≤ limit) ∨
    ∃ payload, m.body = .response payload ∧ limit < m.encode.length ∧
      ((∃ values n, payload.get? Key.values = some (.list values) ∧
          m.encodeWithin limit =
            (m.withPayload (payload.insert Key.values (.list (values.take n)))).encode) ∨
        m.encodeWithin limit =
          { m with body := .error (.responseTooLong m.encode.length) }.encode) := by
  unfold encodeWithin encodeWithinFrom
  dsimp only
  split_ifs with hfull
  · exact .inl ⟨rfl, fun _ _ => hfull⟩
  · have hlong := Nat.lt_of_not_le hfull
    obtain ⟨transaction, version, body⟩ := m
    cases body with
    | response payload =>
      refine .inr ⟨payload, rfl, hlong, ?_⟩
      dsimp only
      split
      · next values hvalues =>
        split
        · next count hcount =>
          split_ifs
          · exact .inl ⟨values, count, hvalues, rfl⟩
          · exact .inr rfl
        · exact .inr rfl
      · exact .inr rfl
    | request query => exact .inl ⟨rfl, nofun⟩
    | error error => exact .inl ⟨rfl, nofun⟩
    | unknown type => exact .inl ⟨rfl, nofun⟩

end Kademlia.Wire

namespace Kademlia.Exchange

open Bencode Wire Service

/-- What a requester may be told when the handlers gave an answer. -/
inductive Conveys : Answer → Body → Prop where
  | payload {given received : Dict} (h : Shortened given received) :
      Conveys (.ok given) (.response received)
  | error (reason : HandlerError) : Conveys (.error reason) (.error reason.toProtocol)
  | tooLong (given : Dict) (n : Nat) : Conveys (.ok given) (.error (.responseTooLong n))

/-- The datagram that answers a request is a message that names its transaction and conveys the
answer. -/
lemma Session.exists_reply (transaction : Bytes) (answer : Answer) (maxPacket : Nat) :
    ∃ body, Conveys answer body ∧
      reply transaction answer maxPacket = (Message.mk transaction (some version) body).encode := by
  unfold reply
  cases answer with
  | error error =>
    rcases Message.encodeWithin_cases ⟨transaction, some version, .error error.toProtocol⟩ maxPacket
      with ⟨heq, -⟩ | ⟨_, hbody, -⟩
    · exact ⟨_, .error error, heq⟩
    · simp at hbody
  | ok payload =>
    rcases Message.encodeWithin_cases ⟨transaction, some version, .response payload⟩ maxPacket
      with ⟨heq, -⟩ | ⟨_, hbody, -, ⟨values, n, hvalues, heq⟩ | heq⟩
    · exact ⟨_, .payload (.inl rfl), heq⟩
    · obtain rfl := Body.response.inj hbody
      exact ⟨_, .payload (.inr ⟨values, n, hvalues, rfl⟩), heq⟩
    · exact ⟨_, .tooLong payload _, heq⟩

end Kademlia.Exchange
