import Kademlia.Wire.Message
import Kademlia.Proofs.Bencode.Contents
import Kademlia.Proofs.Bencode.RoundTrip

/-!
# Reading messages back

The datagram of a message is read as that message, whatever follows it, and it is no datagram before
its last octet. Its octets do not depend on the order in which dictionaries were filled.
-/

namespace Kademlia

open Bencode

namespace Utf8

lemma decode?_encode (s : String) : decode? (encode s) = some s := by
  have hbytes : (⟨(encode s).toArray⟩ : ByteArray) = s.toByteArray := by
    simp [encode]
  rw [decode?, hbytes, String.fromUTF8?, dif_pos s.isValidUTF8]
  rfl

/-- Text that was well formed is written as it was. -/
lemma encode_of_decode? {bs : Bytes} {s : String} (h : decode? bs = some s) : encode s = bs := by
  unfold decode? String.fromUTF8? at h
  split at h
  · obtain rfl := Option.some.inj h
    rfl
  · simp at h

lemma decodeLossy_encode (s : String) : decodeLossy (encode s) = s := by
  rw [decodeLossy, decode?_encode, Option.getD_some]

end Utf8

namespace Wire

/-! ### Envelopes field by field -/

/-- The fields of a dictionary say what the body is. -/
inductive Describes (d : Dict) : Body → Prop where
  | request {q : Bytes} {method : String} {arguments : List Entry}
      (hq : d.get? Key.q = some (.bytes q)) (htext : Utf8.decode? q = some method)
      (ha : d.get? Key.a = some (.dict arguments)) :
      Describes d (.request ⟨method, Dict.ofEntries arguments⟩)
  | response {payload : List Entry} (hr : d.get? Key.r = some (.dict payload)) :
      Describes d (.response (Dict.ofEntries payload))
  | error {code : Int64} {s : Bytes} (he : d.get? Key.e = some (.list [.int code, .bytes s])) :
      Describes d (.error ⟨code, Utf8.decodeLossy s⟩)
  | unknown {type : Bytes} (htype : type ∉ [Key.q, Key.r, Key.e]) : Describes d (.unknown type)

namespace Message

section Reading

variable {d : Dict}

lemma queryOf_eq_ok {query : Query} : queryOf d = .ok query ↔ Describes d (.request query) := by
  constructor
  · intro h
    simp only [queryOf, bind, Except.bind] at h
    split at h
    · next q hq =>
      split at h
      · next method htext =>
        split at h
        · next arguments ha =>
          obtain rfl := Except.ok.inj h
          exact .request hq htext ha
        all_goals simp at h
      · simp at h
    all_goals simp at h
  · intro h
    cases h with
    | request hq htext ha => simp [queryOf, hq, htext, ha, bind, Except.bind]

lemma payloadOf_eq_ok {payload : Dict} :
    payloadOf d = .ok payload ↔ Describes d (.response payload) := by
  constructor
  · intro h
    unfold payloadOf at h
    split at h
    · next hr =>
      obtain rfl := Except.ok.inj h
      exact .response hr
    · simp at h
    · simp at h
  · intro h
    cases h with
    | response hr => simp [payloadOf, hr]

lemma errorOf_eq_ok {error : ProtocolError} :
    errorOf d = .ok error ↔ Describes d (.error error) := by
  constructor
  · intro h
    unfold errorOf at h
    split at h
    · next he =>
      obtain rfl := Except.ok.inj h
      exact .error he
    all_goals simp at h
  · intro h
    cases h with
    | error he => simp [errorOf, he]

/-- The body of an envelope of this type. -/
def bodyOf (d : Dict) (type : Bytes) : Except EnvelopeError Body :=
  if type = Key.q then .request <$> queryOf d
  else if type = Key.r then .response <$> payloadOf d
  else if type = Key.e then .error <$> errorOf d
  else .ok (.unknown type)

lemma bodyOf_eq_ok {type : Bytes} {body : Body} :
    bodyOf d type = .ok body ↔ body.type = type ∧ Describes d body := by
  constructor
  · intro h
    unfold bodyOf at h
    split_ifs at h with hq hr he
    · obtain ⟨query, hquery, rfl⟩ := map_eq_ok.1 h
      exact ⟨hq.symm, queryOf_eq_ok.1 hquery⟩
    · obtain ⟨payload, hpayload, rfl⟩ := map_eq_ok.1 h
      exact ⟨hr.symm, payloadOf_eq_ok.1 hpayload⟩
    · obtain ⟨error, herror, rfl⟩ := map_eq_ok.1 h
      exact ⟨he.symm, errorOf_eq_ok.1 herror⟩
    · obtain rfl := Except.ok.inj h
      exact ⟨rfl, .unknown (by simp [hq, hr, he])⟩
  · rintro ⟨rfl, h⟩
    cases body with
    | request query => exact map_eq_ok.2 ⟨query, queryOf_eq_ok.2 h, rfl⟩
    | response payload => exact map_eq_ok.2 ⟨payload, payloadOf_eq_ok.2 h, rfl⟩
    | error error => exact map_eq_ok.2 ⟨error, errorOf_eq_ok.2 h, rfl⟩
    | unknown type =>
      cases h with
      | unknown htype =>
        simp only [List.mem_cons, List.not_mem_nil, or_false, not_or] at htype
        obtain ⟨hq, hr, he⟩ := htype
        simp [bodyOf, Body.type, hq, hr, he]

/-- The type of an envelope. -/
def typeOf (d : Dict) : Except EnvelopeError Bytes :=
  match d.get? Key.y with
  | some (.bytes type) => .ok type
  | some _ => .error .typeNotString
  | none => .error .noType

/-- The transaction of an envelope. -/
def transactionOf (d : Dict) : Except EnvelopeError Bytes :=
  match d.get? Key.t with
  | some (.bytes transaction) => .ok transaction
  | some _ => .error .transactionNotString
  | none => .error .noTransaction

/-- A dictionary is read field by field, the type first and the transaction last. -/
lemma ofDict_eq (d : Dict) :
    ofDict d = typeOf d >>= fun type => bodyOf d type >>= fun body =>
      transactionOf d >>= fun transaction => .ok ⟨transaction, d.getBytes? Key.v, body⟩ := by
  unfold ofDict typeOf bodyOf transactionOf
  generalize d.get? Key.y = y
  generalize d.get? Key.t = t
  rcases y with _ | (_ | type | _ | _) <;> try rfl
  rcases t with _ | (_ | _ | _ | _) <;> simp only [bind, Except.bind] <;> split_ifs <;> rfl

lemma typeOf_eq_ok {type : Bytes} :
    typeOf d = .ok type ↔ d.get? Key.y = some (.bytes type) := by
  unfold typeOf
  split <;> simp_all

lemma transactionOf_eq_ok {transaction : Bytes} :
    transactionOf d = .ok transaction ↔ d.get? Key.t = some (.bytes transaction) := by
  unfold transactionOf
  split <;> simp_all

/-- A dictionary is read as a message exactly if its fields say what is in the message. -/
lemma ofDict_eq_ok {m : Message} :
    ofDict d = .ok m ↔ d.get? Key.y = some (.bytes m.body.type) ∧
      d.get? Key.t = some (.bytes m.transaction) ∧ d.getBytes? Key.v = m.version ∧
      Describes d m.body := by
  rw [ofDict_eq]
  constructor
  · intro h
    obtain ⟨type, htype, h⟩ := bind_eq_ok.1 h
    obtain ⟨body, hbody, h⟩ := bind_eq_ok.1 h
    obtain ⟨transaction, ht, h⟩ := bind_eq_ok.1 h
    obtain rfl := Except.ok.inj h
    obtain ⟨rfl, hdescribes⟩ := bodyOf_eq_ok.1 hbody
    exact ⟨typeOf_eq_ok.1 htype, transactionOf_eq_ok.1 ht, rfl, hdescribes⟩
  · rintro ⟨htype, ht, hv, hbody⟩
    rw [typeOf_eq_ok.2 htype, transactionOf_eq_ok.2 ht, hv]
    exact bind_eq_ok.2 ⟨_, rfl, bind_eq_ok.2 ⟨_, bodyOf_eq_ok.2 ⟨rfl, hbody⟩, rfl⟩⟩

end Reading

/-! ### The envelope of a message -/

/-- The entries of the envelope. -/
def entries (m : Message) : List Entry :=
  m.body.entries ++ [(Key.t, .bytes m.transaction)]
    ++ (m.version.map fun v => (Key.v, Value.bytes v)).toList ++ [(Key.y, .bytes m.body.type)]

lemma Body.canonical_of_mem {body : Body} {e : Entry} (h : e ∈ body.entries) : e.2.Canonical := by
  cases body with
  | request query =>
    rcases List.mem_cons.1 h with rfl | h
    · exact query.arguments.canonical
    · obtain rfl := List.mem_singleton.1 h
      exact .bytes _
  | response payload =>
    obtain rfl := List.mem_singleton.1 h
    exact payload.canonical
  | error error =>
    obtain rfl := List.mem_singleton.1 h
    refine .list fun v hv => ?_
    rcases List.mem_cons.1 hv with rfl | hv
    · exact .int _
    · obtain rfl := List.mem_singleton.1 hv
      exact .bytes _
  | unknown type => simp [Body.entries] at h

/-- The envelope has its keys in ascending order, and so have the dictionaries in it. -/
lemma canonical_toValue (m : Message) : m.toValue.Canonical := by
  obtain ⟨transaction, version, body⟩ := m
  refine .dict ?_ fun e he => ?_
  · cases body <;> cases version <;>
      simp [Ascending, Body.entries, Key.a, Key.e, Key.q, Key.r, Key.t, Key.v, Key.y] <;> decide
  · simp only [List.mem_append, List.mem_singleton, Option.mem_toList, Option.map_eq_some_iff] at he
    rcases he with ((he | rfl) | ⟨v, -, rfl⟩) | rfl
    · exact Body.canonical_of_mem he
    · exact .bytes _
    · exact .bytes _
    · exact .bytes _

lemma get?_ofEntries (m : Message) (k : Bytes) :
    (Dict.ofEntries m.entries).get? k = (m.entries.find? fun e => e.1 == k).map (·.2) := by
  have hnormal := Value.normal_of_canonical m.canonical_toValue
  rw [toValue, Value.normal] at hnormal
  rw [Dict.get?, Dict.ofEntries]
  exact congrArg (fun es => (es.find? fun e => e.1 == k).map (·.2)) (Value.dict.inj hnormal)

lemma get?_type (m : Message) :
    (Dict.ofEntries m.entries).get? Key.y = some (.bytes m.body.type) := by
  obtain ⟨transaction, version, body⟩ := m
  rw [get?_ofEntries]
  cases body <;> cases version <;> rfl

lemma get?_transaction (m : Message) :
    (Dict.ofEntries m.entries).get? Key.t = some (.bytes m.transaction) := by
  obtain ⟨transaction, version, body⟩ := m
  rw [get?_ofEntries]
  cases body <;> cases version <;> rfl

lemma get?_version (m : Message) :
    (Dict.ofEntries m.entries).get? Key.v = m.version.map Value.bytes := by
  obtain ⟨transaction, version, body⟩ := m
  rw [get?_ofEntries]
  cases body <;> cases version <;> rfl

lemma getBytes?_version (m : Message) :
    (Dict.ofEntries m.entries).getBytes? Key.v = m.version := by
  rw [Dict.getBytes?, get?_version, Option.bind_map]
  exact Option.bind_fun_some m.version

/-- The envelope has the fields that describe the body. -/
lemma describes_entries {m : Message}
    (htype : ∀ type, m.body = .unknown type → type ∉ [Key.q, Key.r, Key.e]) :
    Describes (Dict.ofEntries m.entries) m.body := by
  have hget := get?_ofEntries m
  obtain ⟨transaction, version, body⟩ := m
  cases body with
  | request query =>
    have h := Describes.request (hget Key.q) (Utf8.decode?_encode query.method) (hget Key.a)
    rwa [Dict.ofEntries_entries] at h
  | response payload =>
    have h := Describes.response (hget Key.r)
    rwa [Dict.ofEntries_entries] at h
  | error error =>
    have h := Describes.error (hget Key.e)
    rwa [Utf8.decodeLossy_encode] at h
  | unknown type => exact .unknown (htype type rfl)

/-- The envelope of a message is read as that message. -/
lemma ofDict_entries {m : Message}
    (htype : ∀ type, m.body = .unknown type → type ∉ [Key.q, Key.r, Key.e]) :
    ofDict (Dict.ofEntries m.entries) = .ok m :=
  ofDict_eq_ok.2 ⟨get?_type m, get?_transaction m, getBytes?_version m, describes_entries htype⟩

/-! ### Datagrams -/

/-- The message of a datagram is that of the dictionary at its front. -/
lemma decode_dict {es : List Entry} (hsize : (Value.dict es).encode.length < UInt64.size)
    (rest : Bytes) : decode ((Value.dict es).encode ++ rest) =
      (ofDict (Dict.ofEntries es)).mapError .envelope := by
  rw [decode, Bencode.decode_encode hsize]

/-- The datagram of a message is read as that message whatever follows it, and none of its proper
prefixes is read as anything. Keys are written in ascending order, and the order in which
dictionaries were filled makes no difference. The only bound is that 64 bits count the octets. -/
theorem decode_encode_message (m : Message) (hsize : m.encode.length < UInt64.size)
    (htype : ∀ type, m.body = .unknown type → type ∉ [Key.q, Key.r, Key.e]) :
    decode m.encode = .ok m ∧
    (∀ rest, decode (m.encode ++ rest) = .ok m) ∧
    (∀ p, p <+: m.encode → p ≠ m.encode → ∃ e, decode p = .error (.bencode e)) ∧
    m.toValue.Canonical ∧
    ∀ es es', (Value.dict es).Same (.dict es') →
      ∀ transaction version (body : Dict → Body),
        (Message.mk transaction version (body (.build es))).encode =
          (Message.mk transaction version (body (.build es'))).encode := by
  have hread (rest : Bytes) : decode (m.encode ++ rest) = .ok m := by
    have hvalue := Bencode.decode_encode (v := m.toValue) hsize rest
    have henvelope := mapError_eq_ok (f := MessageError.envelope).2 (ofDict_entries htype)
    rw [toValue] at hvalue
    rw [decode, encode, toValue, hvalue]
    exact henvelope
  refine ⟨?_, hread, ?_, m.canonical_toValue, ?_⟩
  · simpa using hread []
  · intro p hstart hproper
    obtain ⟨e, hp⟩ := decode_of_prefix hsize hstart hproper
    exact ⟨e, by rw [decode, hp]⟩
  · intro es es' hsame transaction version body
    rw [Dict.build_eq_of_same hsame]

/-- A request whose dictionaries hold everything there is, out of order. -/
def nested : Message :=
  ⟨[0, 255], some [1], .request ⟨"πng", .build [
    ([98], .list [.int Int64.minValue, .dict [([2], .bytes [101]), ([1], .list [])], .bytes []]),
    ([97], .dict []), ([98, 0], .int 0)]⟩⟩

theorem decode_encode_nested :
    nested.encode.length < UInt64.size ∧
      (∀ type, nested.body = .unknown type → type ∉ [Key.q, Key.r, Key.e]) ∧
      decode nested.encode = .ok nested ∧ decode (nested.encode ++ nested.encode) = .ok nested ∧
      (∃ e, decode (nested.encode.take 7) = .error (.bencode e)) ∧ nested.toValue.Canonical := by
  have hsize : nested.encode.length < UInt64.size := by cbv
  have htype : ∀ type, nested.body = .unknown type → type ∉ [Key.q, Key.r, Key.e] := by
    simp [nested]
  obtain ⟨hread, hmore, hstart, hcanonical, -⟩ := decode_encode_message nested hsize htype
  refine ⟨hsize, htype, hread, hmore nested.encode, ?_, hcanonical⟩
  have hlonger : (nested.encode.take 7).length < nested.encode.length := by cbv
  exact hstart _ (List.take_prefix _ _) fun heq => absurd (heq ▸ hlonger) (lt_irrefl _)

end Message

end Wire

end Kademlia
