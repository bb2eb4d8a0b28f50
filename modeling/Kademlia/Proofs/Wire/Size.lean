import Kademlia.Proofs.Bencode.Length
import Kademlia.Proofs.Wire.Datagram
import Kademlia.Proofs.Wire.Texts

/-!
# How long datagrams get

A response is sent in no more octets than there may be, or an error takes its place. An error is sent
as it is, and its datagram is as long as its text and the name of its transaction make it. The name of
a transaction and all that is in a request come from a datagram, and are no longer than it was.
-/

namespace Kademlia

open Bencode

namespace Wire

/-! ### Responses -/

/-- The length of the datagram of a response. -/
lemma Message.length_encode_response (transaction : Bytes) (payload : Dict) :
    (Message.mk transaction (some Exchange.version) (.response payload)).encode.length =
      (encodeBytes transaction).length + payload.toValue.encode.length + 23 := by
  have hversion : (encodeBytes Exchange.version).length = 6 := by decide
  have hkeys : (encodeBytes Key.r).length = 3 ∧ (encodeBytes Key.t).length = 3 ∧
      (encodeBytes Key.v).length = 3 ∧ (encodeBytes Key.y).length = 3 := by decide
  obtain ⟨hr, ht, hv, hy⟩ := hkeys
  rw [encode, toValue, Value.length_encode_dict]
  simp only [Body.entries, Body.type, Option.map_some, Option.toList_some, List.map_append,
    List.map_cons, List.map_nil, List.sum_append, List.sum_cons, List.sum_nil, encodeEntry,
    List.length_append, Value.encode_bytes]
  omega

/-- A response is sent in no more octets than there may be, or the error that says how long it was is
sent in its place. -/
lemma Message.length_encodeWithin {m : Message} {payload : Dict} (hbody : m.body = .response payload)
    (limit : Nat) :
    (m.encodeWithin limit).length ≤ limit ∨
      m.encodeWithin limit = { m with body := .error (.responseTooLong m.encode.length) }.encode := by
  unfold encodeWithin encodeWithinFrom
  dsimp only
  split_ifs with hfull
  · exact .inl hfull
  rw [hbody]
  dsimp only
  split
  · split
    · split_ifs with hfits
      · exact .inl hfits
      · exact .inr rfl
    · exact .inr rfl
  · exact .inr rfl

/-! ### Errors -/

/-- The length of the datagram of an error. -/
lemma Message.length_encode_error (transaction : Bytes) (e : ProtocolError) :
    (Message.mk transaction (some Exchange.version) (.error e)).encode.length =
      (encodeBytes transaction).length + (encodeBytes (Utf8.encode e.description)).length +
        (Decimal.ofInt e.code.toInt).length + 27 := by
  have hversion : (encodeBytes Exchange.version).length = 6 := by decide
  have hkeys : (encodeBytes Key.e).length = 3 ∧ (encodeBytes Key.t).length = 3 ∧
      (encodeBytes Key.v).length = 3 ∧ (encodeBytes Key.y).length = 3 := by decide
  obtain ⟨he, ht, hv, hy⟩ := hkeys
  rw [encode, toValue, Value.length_encode_dict]
  simp only [Body.entries, Body.type, Option.map_some, Option.toList_some, List.map_append,
    List.map_cons, List.map_nil, List.sum_append, List.sum_cons, List.sum_nil, encodeEntry,
    List.length_append, Value.length_encode_list, Value.encode_int, Value.encode_bytes,
    List.length_cons, List.length_nil]
  omega

/-- Codes of errors have three digits. -/
def ProtocolError.Usual (e : ProtocolError) : Prop :=
  0 ≤ e.code.toInt ∧ e.code.toInt < 1000

lemma ProtocolError.usual_mk {code : Int64} (description : String)
    (hcode : 0 ≤ code.toInt ∧ code.toInt < 1000) : Usual ⟨code, description⟩ :=
  hcode

lemma ProtocolError.Usual.length_code {e : ProtocolError} (h : e.Usual) :
    (Decimal.ofInt e.code.toInt).length ≤ 3 := by
  obtain ⟨hlow, hhigh⟩ := h
  generalize e.code.toInt = i at hlow hhigh
  cases i with
  | ofNat n =>
    apply Decimal.length_ofNat_le (by decide)
    rw [Int.ofNat_eq_natCast] at hhigh
    omega
  | negSucc n => exact absurd hlow (Int.negSucc_not_nonneg n).1

/-- An error with a text of fewer than a thousand octets, for a transaction whose name has fewer than
ten thousand. -/
lemma Message.length_encode_error_le {transaction : Bytes} {e : ProtocolError} (he : e.Usual)
    (htransaction : transaction.length < 10 ^ 4) {digits : Nat} (hdigits : 0 < digits)
    (hdescription : e.description.utf8ByteSize < 10 ^ digits) :
    (Message.mk transaction (some Exchange.version) (.error e)).encode.length ≤
      transaction.length + e.description.utf8ByteSize + digits + 36 := by
  have hcode := he.length_code
  have ht := Decimal.length_ofNat_le (by decide) htransaction
  have hd := Decimal.length_ofNat_le hdigits hdescription
  rw [length_encode_error, length_encodeBytes_eq, length_encodeBytes_eq, Utf8.length_encode]
  omega

/-! ### What comes from a datagram -/

/-- The name of a transaction and the method are no longer than the datagram that they come from, and
the arguments weigh no more. -/
lemma Message.length_of_decode {bs : Bytes} {m : Message} (h : decode bs = .ok m) :
    m.transaction.length ≤ bs.length ∧ ∀ query, m.body = .request query →
      query.method.utf8ByteSize ≤ bs.length ∧ query.arguments.weight ≤ bs.length := by
  unfold decode at h
  split at h
  · cases h
  · next entries rest hvalue =>
    have hweight : entriesWeight entries + 1 ≤ bs.length := weight_decode hvalue
    have hdict := Dict.weight_ofEntries entries
    obtain ⟨-, htransaction, -, hbody⟩ := ofDict_eq_ok.1 (mapError_eq_ok.1 h)
    have ht : m.transaction.length + 1 ≤ _ := Dict.weight_get? htransaction
    refine ⟨by omega, fun query hquery => ?_⟩
    rw [hquery] at hbody
    cases hbody with
    | @request q method arguments hq htext ha =>
      have hqsize : q.length + 1 ≤ _ := Dict.weight_get? hq
      have hasize : entriesWeight arguments + 1 ≤ _ := Dict.weight_get? ha
      have hkept := Dict.weight_ofEntries arguments
      rw [← Utf8.length_encode, Utf8.encode_of_decode? htext]
      dsimp only
      exact ⟨by omega, by omega⟩
  · cases h

end Wire

end Kademlia
