import Kademlia.Exchange.Call
import Kademlia.Proofs.Bencode.RoundTrip
import Kademlia.Proofs.Compact

/-!
# Reading answers

An answer that could be read carries the identifier its response was verified by, and the contacts
it lists carry neither a token nor a number of values.
-/

namespace Kademlia.Wire

open Bencode Exchange

/-- An identifier that is there is that of the author. -/
lemma eq_of_require_id {d : Dict} {id author : Id} (h : Field.id.require d = .ok id)
    (hauthor : authorOf d = some author) : id = author := by
  simp only [authorOf, Dict.getBytes?, Option.bind_eq_some_iff] at hauthor
  obtain ⟨bs, ⟨v, hget, hbytes⟩, hid⟩ := hauthor
  simp only [Field.require, Field.id, hget] at h
  cases v with
  | bytes bs' =>
    obtain rfl : bs' = bs := by simpa [Value.asBytes?] using hbytes
    simp only [readId, readBytes, bind_eq_ok, mapError_eq_ok] at h
    obtain ⟨_, heq, h⟩ := h
    obtain rfl := Except.ok.inj heq
    simp only [Id.ofBytes?, Id.ofBytes] at hid h
    split at h
    · next hlength =>
      rw [dif_pos hlength] at hid
      exact (Except.ok.inj h).symm.trans (Option.some.inj hid)
    · simp at h
  | int n => simp [Value.asBytes?] at hbytes
  | list vs => simp [Value.asBytes?] at hbytes
  | dict es => simp [Value.asBytes?] at hbytes

/-! ### Contacts in compact form -/

lemma eq_bare_of_mem_nodes {d : Dict} {cs : List Contact} (h : Field.nodes.getD d [] = .ok cs) :
    ∀ c ∈ cs, c = c.bare := by
  unfold Field.getD at h
  split at h
  · simp only [Field.nodes, readContacts, bind_eq_ok, mapError_eq_ok] at h
    obtain ⟨bs, -, h⟩ := h
    have hreceived := (Contact.ofCompactAll_eq_ok_iff.1 h).2
    exact fun c hc => (Contact.received_eq_self_iff.1 hreceived c hc).2.symm
  · obtain rfl := Except.ok.inj h
    simp

/-! ### Answers to the finding verbs -/

variable {α : Type} {reply : Reply}

/-- An answer that could be read comes from a response. -/
lemma parse_eq_ok [Payload α] {a : α} (h : Call.parse α reply = .ok a) :
    ∃ r, reply = .ok r ∧ Payload.ofDict r.payload = .ok a := by
  simp only [Call.parse, bind_eq_ok, mapError_eq_ok] at h
  exact h

lemma parse_findNode {a : FindNode.Answer} (h : Call.parse FindNode.Answer reply = .ok a) :
    (∃ r, reply = .ok r ∧ Field.id.require r.payload = .ok a.id) ∧ ∀ c ∈ a.nodes, c = c.bare := by
  obtain ⟨r, hr, h⟩ := parse_eq_ok h
  simp only [Payload.ofDict, bind_eq_ok] at h
  obtain ⟨_, -, id, hid, nodes, hnodes, token, -, h⟩ := h
  obtain rfl := Except.ok.inj h
  exact ⟨⟨r, hr, hid⟩, eq_bare_of_mem_nodes hnodes⟩

lemma parse_findValue {a : FindValue.Answer} (h : Call.parse FindValue.Answer reply = .ok a) :
    (∃ r, reply = .ok r ∧ Field.id.require r.payload = .ok a.id) ∧ ∀ c ∈ a.nodes, c = c.bare := by
  obtain ⟨r, hr, h⟩ := parse_eq_ok h
  simp only [Payload.ofDict, bind_eq_ok] at h
  obtain ⟨_, -, id, hid, nodes, hnodes, token, -, num, -, h⟩ := h
  obtain rfl := Except.ok.inj h
  exact ⟨⟨r, hr, hid⟩, eq_bare_of_mem_nodes hnodes⟩

end Kademlia.Wire
