import Mathlib
import Kademlia.Exchange.Call

/-!
# What comes out of a call

A call gives out the reply that was given to its ticket. A response comes out only if it names its
author, by a byte string of twenty octets, and if that is the node the call expects.
-/

namespace Kademlia

open Bencode Wire

/-- The author of a payload is named by a byte string of the right size and by nothing else. -/
lemma Wire.authorOf_eq_some_iff {d : Dict} {id : Id} :
    authorOf d = some id ↔ d.get? Key.id = some (.bytes id.bytes) := by
  rw [authorOf, Dict.getBytes?]
  cases d.get? Key.id with
  | none => simp
  | some v =>
    cases v with
    | bytes bs =>
      simp only [Option.bind_some, Value.asBytes?, Id.ofBytes?, Option.some.injEq,
        Value.bytes.injEq]
      constructor
      · intro h
        split_ifs at h
        obtain rfl := Option.some.inj h
        rfl
      · rintro rfl
        rw [dif_pos id.length_bytes]
    | int n => simp [Value.asBytes?]
    | list vs => simp [Value.asBytes?]
    | dict es => simp [Value.asBytes?]

namespace Exchange.Call

variable {c : Call} {m : Multiplexer} {expected : Option Id} {r r' : Response}

/-- A response that is verified stays as it is, and it names an author the call does not refuse. -/
lemma verify_eq_ok (h : verify expected r = .ok r') :
    r' = r ∧ ∃ author, authorOf r.payload = some author ∧
      ∀ id, expected = some id → id = author := by
  unfold verify at h
  split at h
  · cases h
  · next author hauthor =>
    split at h
    · next id =>
      split_ifs at h with heq
      refine ⟨(Except.ok.inj h).symm, author, hauthor, fun id' hid' => ?_⟩
      rw [← Option.some.inj hid', heq]
    · exact ⟨(Except.ok.inj h).symm, author, hauthor, nofun⟩

/-- A response that comes out was given to the ticket of the call. -/
lemma collect_of_poll (h : (c.poll m).1 = some (.ok r)) :
    (m.collect c.ticket).1 = .ready (.ok r) ∧ ∃ author, authorOf r.payload = some author ∧
      ∀ id, c.expected = some id → id = author := by
  unfold poll at h
  split at h
  · next reply m' hcollect =>
    have hverify := Option.some.inj h
    cases reply with
    | error e => cases hverify
    | ok given =>
      obtain ⟨rfl, hauthor⟩ := verify_eq_ok hverify
      exact ⟨congrArg Prod.fst hcollect, hauthor⟩
  · cases h
  · cases h

/-- What was given to the ticket comes out once it is verified. -/
lemma poll_of_collect {reply : Reply} (h : (m.collect c.ticket).1 = .ready reply) :
    (c.poll m).1 = some (reply.bind (verify c.expected)) := by
  cases hcollect : m.collect c.ticket with
  | mk found m' =>
    obtain rfl : found = .ready reply := by rw [← h, hcollect]
    rw [poll, hcollect]

end Exchange.Call

end Kademlia
