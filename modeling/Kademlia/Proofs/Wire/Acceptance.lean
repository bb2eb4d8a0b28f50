import Kademlia.Proofs.Wire.Envelope

/-!
# What is read as a message

A value is read as a message exactly if it is a dictionary with a type, a transaction and the fields
of its type. Written again, the message is that dictionary without everything else. What else there
was makes no difference to the outcome, whether a message or an error.
-/

namespace Kademlia.Wire

open Bencode

/-- A dictionary with a type, a transaction and the fields that go with the type. -/
structure IsEnvelope (d : Dict) (y : Bytes) : Prop where
  type : d.get? Key.y = some (.bytes y)
  transaction : ∃ t, d.get? Key.t = some (.bytes t)
  method : y = Key.q → ∃ q, d.get? Key.q = some (.bytes q) ∧ (Utf8.decode? q).isSome
  arguments : y = Key.q → ∃ a, d.get? Key.a = some (.dict a)
  response : y = Key.r → ∃ r, d.get? Key.r = some (.dict r)
  error : y = Key.e → ∃ code s, d.get? Key.e = some (.list [.int code, .bytes s])

/-- The keys of the fields that only messages of this type have. -/
def ownKeys (type : Bytes) : List Bytes :=
  if type = Key.q then [Key.a, Key.q]
  else if type = Key.r then [Key.r]
  else if type = Key.e then [Key.e]
  else []

/-- The description of an error repaired to text. -/
def repaired : Value → Value
  | .list [.int code, .bytes s] => .list [.int code, .bytes (Utf8.encode (Utf8.decodeLossy s))]
  | v => v

/-- What a message of this type keeps of the value under a key. -/
def kept (type k : Bytes) (v : Value) : Option Value :=
  if k = Key.t ∨ k = Key.y then some v
  else if k = Key.v then v.asBytes?.map .bytes
  else if (ownKeys type).contains k then some (if k = Key.e then repaired v else v)
  else none

/-- The entries of a dictionary that a message of this type keeps. -/
def restricted (d : Dict) (type : Bytes) : List Entry :=
  d.entries.filterMap fun e => (kept type e.1 e.2).map fun v => (e.1, v)

/-- Both dictionaries have the same in every field that counts for the type of the first one. -/
structure Agree (d d' : Dict) : Prop where
  type : d'.get? Key.y = d.get? Key.y
  transaction : d'.get? Key.t = d.get? Key.t
  version : d'.getBytes? Key.v = d.getBytes? Key.v
  own : ∀ type, d.get? Key.y = some (.bytes type) → ∀ k ∈ ownKeys type, d'.get? k = d.get? k

section Keys

@[simp] lemma ownKeys_q : ownKeys Key.q = [Key.a, Key.q] := rfl

@[simp] lemma ownKeys_r : ownKeys Key.r = [Key.r] := rfl

@[simp] lemma ownKeys_e : ownKeys Key.e = [Key.e] := rfl

lemma ownKeys_unknown {type : Bytes} (h : type ∉ [Key.q, Key.r, Key.e]) : ownKeys type = [] := by
  simp only [List.mem_cons, List.not_mem_nil, or_false, not_or] at h
  obtain ⟨hq, hr, he⟩ := h
  rw [ownKeys, if_neg hq, if_neg hr, if_neg he]

end Keys

/-! ### The message of a dictionary -/

namespace Message

variable {d d' : Dict}

lemma isEnvelope_of_describes {body : Body} {t : Bytes} (hbody : Describes d body)
    (htype : d.get? Key.y = some (.bytes body.type)) (ht : d.get? Key.t = some (.bytes t)) :
    IsEnvelope d body.type := by
  cases hbody with
  | request hq htext ha =>
    exact ⟨htype, ⟨t, ht⟩, fun _ => ⟨_, hq, by rw [htext, Option.isSome_some]⟩, fun _ => ⟨_, ha⟩,
      fun h : Key.q = Key.r => absurd h (by decide), fun h : Key.q = Key.e => absurd h (by decide)⟩
  | response hr =>
    have hne : Key.r ≠ Key.q := by decide
    exact ⟨htype, ⟨t, ht⟩, fun h => absurd h hne, fun h => absurd h hne, fun _ => ⟨_, hr⟩,
      fun h : Key.r = Key.e => absurd h (by decide)⟩
  | error he =>
    have hne : Key.e ≠ Key.q := by decide
    exact ⟨htype, ⟨t, ht⟩, fun h => absurd h hne, fun h => absurd h hne,
      fun h : Key.e = Key.r => absurd h (by decide), fun _ => ⟨_, _, he⟩⟩
  | unknown hnot =>
    simp only [List.mem_cons, List.not_mem_nil, or_false, not_or] at hnot
    obtain ⟨hq, hr, he⟩ := hnot
    exact ⟨htype, ⟨t, ht⟩, fun h => absurd h hq, fun h => absurd h hq, fun h => absurd h hr,
      fun h => absurd h he⟩

lemma exists_describes {type : Bytes} (h : IsEnvelope d type) :
    ∃ body, Body.type body = type ∧ Describes d body := by
  by_cases hq : type = Key.q
  · obtain ⟨q, hget, htext⟩ := h.method hq
    obtain ⟨a, ha⟩ := h.arguments hq
    obtain ⟨method, hmethod⟩ := Option.isSome_iff_exists.1 htext
    exact ⟨.request _, hq.symm, .request hget hmethod ha⟩
  by_cases hr : type = Key.r
  · obtain ⟨r, hget⟩ := h.response hr
    exact ⟨.response _, hr.symm, .response hget⟩
  by_cases he : type = Key.e
  · obtain ⟨code, s, hget⟩ := h.error he
    exact ⟨.error _, he.symm, .error hget⟩
  exact ⟨.unknown type, rfl, .unknown (by simp [hq, hr, he])⟩

/-- A message can be read exactly if everything is there that goes with the type. -/
lemma exists_ofDict_iff {type : Bytes} :
    (∃ m, ofDict d = .ok m ∧ m.body.type = type) ↔ IsEnvelope d type := by
  constructor
  · rintro ⟨m, h, rfl⟩
    obtain ⟨htype, ht, -, hbody⟩ := ofDict_eq_ok.1 h
    exact isEnvelope_of_describes hbody htype ht
  · intro h
    obtain ⟨t, ht⟩ := h.transaction
    obtain ⟨body, rfl, hbody⟩ := exists_describes h
    exact ⟨⟨t, d.getBytes? Key.v, body⟩, ofDict_eq_ok.2 ⟨h.type, ht, rfl, hbody⟩, rfl⟩

/-- The outcome depends on nothing but the fields that count for the type. -/
lemma ofDict_congr (h : Agree d d') : ofDict d' = ofDict d := by
  have htype : typeOf d' = typeOf d := by
    rw [typeOf, typeOf, h.type]
  have htransaction : transactionOf d' = transactionOf d := by
    rw [transactionOf, transactionOf, h.transaction]
  rw [ofDict_eq, ofDict_eq, htype, htransaction, h.version]
  cases hd : typeOf d with
  | error e => rfl
  | ok type =>
    have hown := h.own type (typeOf_eq_ok.1 hd)
    have hbody : bodyOf d' type = bodyOf d type := by
      unfold bodyOf
      split_ifs with hq hr he
      · subst hq
        rw [queryOf, queryOf, hown Key.a (by simp), hown Key.q (by simp)]
      · subst hr
        rw [payloadOf, payloadOf, hown Key.r (by simp)]
      · subst he
        rw [errorOf, errorOf, hown Key.e (by simp)]
      · rfl
    simp only [bind, Except.bind, hbody]

end Message

/-! ### The message written again -/

section Restricted

variable {k : Bytes} {es : List Entry} {d : Dict} {m : Message}

lemma ascending_restricted (d : Dict) (type : Bytes) : Ascending (restricted d type) := by
  refine List.Pairwise.filterMap _ (fun e e' hlt f hf f' hf' => ?_) d.ascending
  obtain ⟨v, -, rfl⟩ := Option.map_eq_some_iff.1 hf
  obtain ⟨v', -, rfl⟩ := Option.map_eq_some_iff.1 hf'
  exact hlt

/-- Apart from transaction, version and type, the entries are those of the body. -/
lemma Message.lookup_entries (m : Message) (ht : Key.t ≠ k) (hv : Key.v ≠ k) (hy : Key.y ≠ k) :
    lookup k m.entries = lookup k m.body.entries := by
  rw [entries, lookup_snoc, if_neg hy, Option.none_or]
  cases m.version with
  | none => rw [Option.map_none, Option.toList_none, List.append_nil, lookup_snoc, if_neg ht,
      Option.none_or]
  | some v => rw [Option.map_some, Option.toList_some, lookup_snoc, if_neg hv, Option.none_or,
      lookup_snoc, if_neg ht, Option.none_or]

/-- What is found in the entries of a body is what is kept of the fields that describe it. -/
lemma lookup_body {body : Body} (h : Describes d body) (ht : Key.t ≠ k) (hv : Key.v ≠ k)
    (hy : Key.y ≠ k) : lookup k body.entries = (d.get? k).bind (kept body.type k) := by
  have hkept (type : Bytes) (v : Value) : kept type k v =
      if (ownKeys type).contains k then some (if k = Key.e then repaired v else v) else none := by
    rw [kept, if_neg (not_or.2 ⟨ht.symm, hy.symm⟩), if_neg hv.symm]
  have hother {type : Bytes} (hk : k ∉ ownKeys type) : (d.get? k).bind (kept type k) = none :=
    Option.bind_eq_none_iff.2 fun v _ => by rw [hkept, if_neg (by simpa using hk)]
  cases h with
  | request hq htext ha =>
    by_cases hka : k = Key.a
    · subst hka
      rw [ha, Body.entries, Dict.toValue_ofEntries ha]
      rfl
    by_cases hkq : k = Key.q
    · subst hkq
      rw [hq, Body.entries, Utf8.encode_of_decode? htext]
      rfl
    rw [Body.type, hother (by simp [hka, hkq])]
    exact lookup_eq_none (by simp [Body.entries, Ne.symm hka, Ne.symm hkq])
  | response hr =>
    by_cases hkr : k = Key.r
    · subst hkr
      rw [hr, Body.entries, Dict.toValue_ofEntries hr]
      rfl
    rw [Body.type, hother (by simp [hkr])]
    exact lookup_eq_none (by simp [Body.entries, Ne.symm hkr])
  | error he =>
    by_cases hke : k = Key.e
    · subst hke
      rw [he]
      rfl
    rw [Body.type, hother (by simp [hke])]
    exact lookup_eq_none (by simp [Body.entries, Ne.symm hke])
  | unknown htype =>
    rw [Body.type, hother (by simp [ownKeys_unknown htype])]
    rfl

/-- The entries of a message are those of the dictionary it was read from, as far as they are kept. -/
lemma restricted_eq_entries (h : Message.ofDict d = .ok m) :
    restricted d m.body.type = m.entries := by
  obtain ⟨htype, ht, hv, hbody⟩ := Message.ofDict_eq_ok.1 h
  -- the entries of `m` as a dictionary
  have hlookup (k : Bytes) : lookup k m.entries = (Dict.ofEntries m.entries).get? k := by
    rw [Dict.ofEntries_entries ⟨m.entries, m.canonical_toValue⟩, Dict.get?_eq_lookup]
  refine ascending_ext (ascending_restricted d _) (Dict.mk m.entries m.canonical_toValue).ascending
    fun k => ?_
  rw [restricted, lookup_filterMap d.ascending, ← Dict.get?_eq_lookup]
  by_cases hky : Key.y = k
  · subst hky
    rw [hlookup, Message.get?_type, htype]
    rfl
  by_cases hkt : Key.t = k
  · subst hkt
    rw [hlookup, Message.get?_transaction, ht]
    rfl
  by_cases hkv : Key.v = k
  · subst hkv
    rw [hlookup, Message.get?_version, ← hv, Dict.getBytes?, Option.map_bind]
    rfl
  rw [Message.lookup_entries m hkt hkv hky, lookup_body hbody hkt hkv hky]

end Restricted

/-! ### Datagrams -/

/-- A value is read as a message, whatever follows it, exactly if it is a dictionary with a type, a
transaction and the fields of its type. The message written again is that dictionary in canonical
form, without what messages of its type do not have. Whatever differs there makes no difference to
the outcome. The only bound is that 64 bits count the octets. -/
theorem Message.decode_eq_ok_iff_envelope (D : Value) (hsize : D.encode.length < UInt64.size)
    (rest : Bytes) :
    ((∃ m, decode (D.encode ++ rest) = .ok m) ↔
      ∃ es type, D = .dict es ∧ IsEnvelope (Dict.ofEntries es) type) ∧
    (∀ m es, D = .dict es → decode (D.encode ++ rest) = .ok m →
      ∃ type, (Dict.ofEntries es).get? Key.y = some (.bytes type) ∧
        m.encode = (Value.dict (restricted (Dict.ofEntries es) type)).encode ∧
        (Value.dict (restricted (Dict.ofEntries es) type)).Canonical) ∧
    ∀ es es' rest', D = .dict es → (Value.dict es').encode.length < UInt64.size →
      Agree (Dict.ofEntries es) (Dict.ofEntries es') →
      decode ((Value.dict es').encode ++ rest') = decode (D.encode ++ rest) := by
  refine ⟨⟨?_, ?_⟩, ?_, ?_⟩
  · rintro ⟨m, h⟩
    rw [decode, Bencode.decode_encode hsize] at h
    cases D with
    | dict es => exact ⟨es, m.body.type, rfl, exists_ofDict_iff.1 ⟨m, mapError_eq_ok.1 h, rfl⟩⟩
    | int n => simp at h
    | bytes bs => simp at h
    | list vs => simp at h
  · rintro ⟨es, type, rfl, henvelope⟩
    obtain ⟨m, h, -⟩ := exists_ofDict_iff.2 henvelope
    exact ⟨m, by rw [decode_dict hsize, h, Except.mapError]⟩
  · rintro m es rfl h
    rw [decode_dict hsize, mapError_eq_ok] at h
    have hentries := restricted_eq_entries h
    refine ⟨m.body.type, (ofDict_eq_ok.1 h).1, ?_, ?_⟩
    · rw [hentries]
      rfl
    · rw [hentries]
      exact m.canonical_toValue
  · rintro es es' rest' rfl hsize' hagree
    rw [decode_dict hsize', decode_dict hsize, ofDict_congr hagree]

/-- An error out of order: its description is no text and its version no byte string, and it has a
field of requests and one that is unknown. -/
def untidy : List Entry :=
  [(Key.y, .bytes Key.e), (Key.q, .int 0), ([122], .dict []), (Key.v, .list []),
    (Key.t, .bytes [1, 2]), (Key.e, .list [.int 203, .bytes [0xF0, 0x9F, 65]])]

/-- The same error in order. -/
def tidy : List Entry :=
  [(Key.e, .list [.int 203, .bytes [0xEF, 0xBF, 0xBD, 65]]), (Key.t, .bytes [1, 2]),
    (Key.y, .bytes Key.e)]

theorem Message.decode_untidy : (Value.dict untidy).encode.length < UInt64.size ∧
    ∃ m, decode ((Value.dict untidy).encode ++ [0]) = .ok m ∧ m.encode = (Value.dict tidy).encode := by
  have hsize : (Value.dict untidy).encode.length < UInt64.size := by cbv
  obtain ⟨hread, hagain, -⟩ := decode_eq_ok_iff_envelope (.dict untidy) hsize [0]
  have henvelope : IsEnvelope (Dict.ofEntries untidy) Key.e :=
    ⟨rfl, ⟨_, rfl⟩, fun h => absurd h (by decide), fun h => absurd h (by decide),
      fun h => absurd h (by decide), fun _ => ⟨_, _, rfl⟩⟩
  obtain ⟨m, hm⟩ := hread.2 ⟨untidy, Key.e, rfl, henvelope⟩
  obtain ⟨type, htype, hencode, -⟩ := hagain m untidy rfl hm
  obtain rfl : Key.e = type := Value.bytes.inj (Option.some.inj (henvelope.type.symm.trans htype))
  refine ⟨hsize, m, hm, hencode.trans ?_⟩
  cbv

end Kademlia.Wire
