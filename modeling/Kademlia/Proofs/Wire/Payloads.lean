import Kademlia.Proofs.Compact
import Kademlia.Proofs.Wire.Datagram
import Kademlia.Wire.Payload

/-!
# Arguments and answers there and back

What was written as a dictionary is read from it as it was, also from a dictionary with further
entries and from one that a datagram carried. Only contacts lose something: they arrive with nothing
but identifier and address, and those of the newer family do not arrive. A dictionary is read by
what stands in it under the keys of the fields, so both directions meet in `Field.Reads`.
-/

namespace Kademlia

open Bencode

namespace Bencode.Dict

/-- Put some entries in, one after the other. -/
def insertAll (d : Dict) (es : List Entry) : Dict :=
  es.foldl (fun d e => d.insert e.1 e.2) d

/-- The second dictionary has the entries of the first one, and other ones only under text. -/
structure Extends (d d' : Dict) : Prop where
  get?_eq : ∀ {k v}, d.get? k = some v → d'.get? k = some v
  isSome_decode? : ∀ {k v}, d'.get? k = some v → d.get? k = none → (Utf8.decode? k).isSome

/-- Entries that a dictionary does not have, all under text. -/
def Further (d : Dict) (es : List Entry) : Prop :=
  ∀ e ∈ es, d.get? e.1 = none ∧ (Utf8.decode? e.1).isSome

lemma extends_insertAll {d : Dict} {es : List Entry} (h : d.Further es) :
    Extends d (d.insertAll es) := by
  unfold insertAll
  apply List.foldlRecOn (motive := Extends d)
  · exact ⟨id, fun hv hnone => by simp [hnone] at hv⟩
  · intro d' hext e he
    obtain ⟨hnone, htext⟩ := h e he
    refine ⟨fun {k v} hv => ?_, fun {k v} hv hk => ?_⟩
    · have hne : e.1 ≠ k := fun heq => by simp [← heq, hnone] at hv
      rw [get?_insert, if_neg hne]
      exact hext.get?_eq hv
    · rw [get?_insert] at hv
      split_ifs at hv with heq
      · rwa [← heq]
      · exact hext.isSome_decode? hv hk

lemma insertAll_append (d : Dict) (es es' : List Entry) :
    d.insertAll (es ++ es') = (d.insertAll es).insertAll es' :=
  List.foldl_append

end Bencode.Dict

namespace Wire

/-! ### Fields -/

section Fields

variable {α : Type} {f : Field α} {a : α} {d : Dict}

/-- The dictionary has the field, and it is read as `a`. -/
def Field.Reads (f : Field α) (d : Dict) (a : α) : Prop :=
  ∃ v, d.get? f.key = some v ∧ f.read v = .ok a

lemma Field.Reads.require (h : f.Reads d a) : f.require d = .ok a := by
  obtain ⟨v, hv, hread⟩ := h
  rw [Field.require, hv]
  exact hread

lemma Field.Reads.getD (h : f.Reads d a) (default : α) : f.getD d default = .ok a := by
  obtain ⟨v, hv, hread⟩ := h
  rw [Field.getD, hv]
  exact hread

/-- What stands under the key of a check passes it. -/
def PassesCheck (d : Dict) (c : Bytes × (Value → Except PayloadError Unit)) : Prop :=
  ∀ v, d.get? c.1 = some v → c.2 v = .ok ()

lemma Field.Reads.passes (h : f.Reads d a) : PassesCheck d f.check := by
  obtain ⟨v, hv, hread⟩ := h
  intro w hw
  obtain rfl : v = w := Option.some.inj (hv.symm.trans hw)
  show discard (f.read v) = .ok ()
  rw [hread]
  rfl

lemma forM_eq_ok {ε β : Type} {xs : List β} {g : β → Except ε Unit}
    (h : ∀ x ∈ xs, g x = .ok ()) : xs.forM g = .ok () := by
  induction xs with
  | nil => rfl
  | cons x xs ih =>
    have hrest := ih fun y hy => h y (List.mem_cons_of_mem x hy)
    exact bind_eq_ok.2 ⟨(), h x List.mem_cons_self, hrest⟩

/-- Entries pass if all keys are text and every check is passed. -/
lemma checkEntries_eq_ok {checks : List (Bytes × (Value → Except PayloadError Unit))}
    (htext : ∀ {k v}, d.get? k = some v → (Utf8.decode? k).isSome)
    (hchecks : ∀ c ∈ checks, PassesCheck d c) : checkEntries d checks = .ok () := by
  apply forM_eq_ok
  rintro ⟨k, v⟩ he
  have hv : d.get? k = some v := Dict.get?_of_mem he
  have hk : (Utf8.decode? k).isNone = false := by
    rw [← Option.not_isSome, htext hv, Bool.not_true]
  simp only [hk, Bool.false_eq_true, if_false]
  split
  · next c hc =>
    have hkey : c.1 = k := by simpa using List.find?_some hc
    exact hchecks c (List.mem_of_find?_eq_some hc) v (hkey ▸ hv)
  · rfl

end Fields

/-! ### Written values -/

section Written

lemma readId_bytes (id : Id) : readId (.bytes id.bytes) = .ok id := by
  simp [readId, readBytes, Id.ofBytes, id.length_bytes, bind, Except.bind, Except.mapError]

lemma readContacts_bytes (cs : List Contact) :
    readContacts (.bytes (Contact.compactAll cs)) = .ok (Contact.received cs) := by
  simp [readContacts, readBytes, Contact.ofCompactAll_compactAll, bind, Except.bind,
    Except.mapError]

lemma canonical_list_bytes (vs : List Bytes) : (Value.list (vs.map .bytes)).Canonical := by
  refine .list fun v hv => ?_
  obtain ⟨bs, -, rfl⟩ := List.mem_map.1 hv
  exact .bytes bs

lemma readValues_list (vs : List Bytes) : readValues (.list (vs.map .bytes)) = .ok vs := by
  rw [readValues]
  induction vs with
  | nil => rfl
  | cons v vs ih =>
    rw [List.map_cons, List.mapM_cons, ih]
    rfl

/-- A count has a value if it is no more than the largest integer, and is read from it. -/
lemma countValue_cases (n : Nat) :
    (2 ^ 63 - 1 < n ∧ countValue n = .error (.countTooLarge n)) ∨
      n ≤ 2 ^ 63 - 1 ∧ ∃ i, countValue n = .ok (.int i) ∧ readCount (.int i) = .ok n := by
  have hmax : Int64.maxValue.toInt = 2 ^ 63 - 1 := by decide
  rw [countValue, hmax]
  by_cases h : n ≤ 2 ^ 63 - 1
  · have hint : (Int64.ofInt n).toInt = n := Int64.toInt_ofInt_of_le (by omega) (by omega)
    refine .inr ⟨h, Int64.ofInt n, if_pos (by omega), ?_⟩
    rw [readCount, hint, if_pos (Int.natCast_nonneg n), Int.toNat_natCast]
  · exact .inl ⟨by omega, if_neg (by omega)⟩

end Written

/-! ### The ten payloads -/

/-- A dictionary is the arguments of a request or the payload of a response. -/
def Message.Carries (m : Message) (d : Dict) : Prop :=
  m.body = .response d ∨ ∃ method, m.body = .request ⟨method, d⟩

/-- Payloads of this type have a dictionary unless one of their counts is too large for an integer,
and with whatever else there is under text, what is read from it is what arrives. So it is after a
message carried the dictionary, with what was added before and after. -/
structure Survives (α : Type) [Payload α] (counts : α → List Nat) (arrives : α → α) : Prop where
  fails : ∀ a, (∃ e, Payload.toDict a = .error e) ↔ ∃ n ∈ counts a, 2 ^ 63 - 1 < n
  read : ∀ a d, Payload.toDict a = .ok d → ∀ more, d.Further more →
    Payload.ofDict (d.insertAll more) = .ok (arrives a)
  carried : ∀ a d, Payload.toDict a = .ok d → ∀ more, d.Further more →
    ∀ m : Message, m.Carries (d.insertAll more) → m.encode.length < UInt64.size →
    ∀ rest, ∃ m' d', Message.decode (m.encode ++ rest) = .ok m' ∧ m'.Carries d' ∧
      ∀ more', d.Further more' → Payload.ofDict (d'.insertAll more') = .ok (arrives a)

section Survives

variable {α : Type} [Payload α] {arrives : α → α}

/-- What can be read from every dictionary with further entries can be read after a message. -/
lemma Survives.of_read {counts : α → List Nat}
    (fails : ∀ a, (∃ e, Payload.toDict a = .error e) ↔ ∃ n ∈ counts a, 2 ^ 63 - 1 < n)
    (read : ∀ a d, Payload.toDict a = .ok d → ∀ d', Dict.Extends d d' →
      Payload.ofDict d' = .ok (arrives a)) : Survives α counts arrives where
  fails := fails
  read a d hd more hmore := read a d hd _ (Dict.extends_insertAll hmore)
  carried a d hd more hmore m hcarries hsize rest := by
    have htype : ∀ type, m.body = .unknown type → type ∉ [Key.q, Key.r, Key.e] := by
      rcases hcarries with h | ⟨method, h⟩ <;> simp [h]
    refine ⟨m, d.insertAll more, Message.decode_encode_append hsize htype rest, hcarries, ?_⟩
    intro more' hmore'
    rw [← Dict.insertAll_append]
    exact read a d hd _ (Dict.extends_insertAll (List.forall_mem_append.2 ⟨hmore, hmore'⟩))

/-- Payloads without counts always have a dictionary. -/
lemma Survives.of_dict {dict : α → Dict} (hdict : ∀ a, Payload.toDict a = .ok (dict a))
    (read : ∀ a d, Dict.Extends (dict a) d → Payload.ofDict d = .ok (arrives a)) :
    Survives α (fun _ => []) arrives := by
  refine .of_read (fun a => by simp [hdict]) fun a d hd d' hext => ?_
  obtain rfl : dict a = d := Except.ok.inj ((hdict a).symm.trans hd)
  exact read a d' hext

/-- Payloads with a count have a dictionary if the count has a value. -/
lemma Survives.of_count {count : α → Nat} {dict : α → Value → Dict}
    (hdict : ∀ a, Payload.toDict a = do
      let num ← countValue (count a)
      .ok (dict a num))
    (read : ∀ a i d, readCount (.int i) = .ok (count a) → Dict.Extends (dict a (.int i)) d →
      Payload.ofDict d = .ok (arrives a)) :
    Survives α (fun a => [count a]) arrives := by
  have hcases (a : α) := countValue_cases (count a)
  refine .of_read (fun a => ?_) fun a d hd d' hext => ?_
  · rw [hdict]
    rcases hcases a with ⟨hlarge, herror⟩ | ⟨hsmall, i, hi, -⟩
    · simpa [herror, bind, Except.bind] using hlarge
    · simp only [hi, bind, Except.bind]
      simpa using hsmall
  · rw [hdict] at hd
    rcases hcases a with ⟨-, herror⟩ | ⟨-, i, hi, hread⟩
    · simp [herror, bind, Except.bind] at hd
    · obtain rfl : dict a (.int i) = d := by simpa [hi, bind, Except.bind] using hd
      exact read a i d' hread hext

end Survives

section Types

variable {α : Type} {f : Field α} {a : α} {d : Dict} {es : List Entry} {v : Value}

/-- A field that was written is read. -/
lemma reads_of_extends (hext : Dict.Extends (Dict.ofEntries es) d) (hv : lookup f.key es = some v)
    (hcanonical : v.Canonical) (hread : f.read v = .ok a) : f.Reads d a := by
  refine ⟨v, hext.get?_eq ?_, hread⟩
  rw [Dict.get?_ofEntries, hv, Option.map_some, Value.normal_of_canonical hcanonical]

/-- Where all keys written are text, all keys are text. -/
lemma text_of_extends (keys : List Bytes) (hkeys : es.map (·.1) = keys)
    (htext : ∀ k ∈ keys, (Utf8.decode? k).isSome) (hext : Dict.Extends (Dict.ofEntries es) d)
    {k : Bytes} {v : Value} (hv : d.get? k = some v) : (Utf8.decode? k).isSome := by
  cases hold : (Dict.ofEntries es).get? k with
  | none => exact hext.isSome_decode? hv hold
  | some w =>
    rw [Dict.get?_ofEntries] at hold
    obtain ⟨u, hu, -⟩ := Option.map_eq_some_iff.1 hold
    exact htext k (hkeys ▸ List.mem_map_of_mem (mem_of_lookup hu))

/-- Where all keys written are text and every check is passed, the entries pass. -/
lemma checkEntries_of_extends (keys : List Bytes) (hkeys : es.map (·.1) = keys)
    (htext : ∀ k ∈ keys, (Utf8.decode? k).isSome) (hext : Dict.Extends (Dict.ofEntries es) d)
    {checks : List (Bytes × (Value → Except PayloadError Unit))}
    (hchecks : ∀ c ∈ checks, PassesCheck d c) : checkEntries d checks = .ok () :=
  checkEntries_eq_ok (text_of_extends keys hkeys htext hext) hchecks

lemma idOfDict_eq_ok {id : Id} (hext : Dict.Extends (idDict id) d) : idOfDict d = .ok id := by
  have hid : Field.id.Reads d id := reads_of_extends hext rfl (.bytes _) (readId_bytes id)
  have hcheck : checkEntries d [Field.id.check] = .ok () :=
    checkEntries_of_extends [Field.id.key] rfl (by decide) hext
      (by simp [hid.passes])
  simp only [idOfDict, hcheck, hid.require]
  rfl

lemma survives_findNode_arguments : Survives FindNode.Arguments (fun _ => []) id := by
  refine .of_dict (fun _ => rfl) fun a d hext => ?_
  have hid : Field.id.Reads d a.id := reads_of_extends hext rfl (.bytes _) (readId_bytes _)
  have htarget : Field.target.Reads d a.target :=
    reads_of_extends hext rfl (.bytes _) (readId_bytes _)
  have hcheck : checkEntries d [Field.id.check, Field.target.check] = .ok () :=
    checkEntries_of_extends [Field.id.key, Field.target.key] rfl (by decide) hext
      (by simp [hid.passes, htarget.passes])
  simp only [Payload.ofDict, hcheck, hid.require, htarget.require]
  rfl

lemma survives_findNode_answer : Survives FindNode.Answer (fun _ => [])
    fun a => { a with nodes := Contact.received a.nodes } := by
  refine .of_dict (fun _ => rfl) fun a d hext => ?_
  have hid : Field.id.Reads d a.id := reads_of_extends hext rfl (.bytes _) (readId_bytes _)
  have hnodes : Field.nodes.Reads d (Contact.received a.nodes) :=
    reads_of_extends hext rfl (.bytes _) (readContacts_bytes _)
  have htoken : Field.token.Reads d a.token := reads_of_extends hext rfl (.bytes _) rfl
  have hcheck : checkEntries d [Field.id.check, Field.nodes.check, Field.token.check] = .ok () :=
    checkEntries_of_extends [Field.id.key, Field.nodes.key, Field.token.key] rfl (by decide) hext
      (by simp [hid.passes, hnodes.passes, htoken.passes])
  simp only [Payload.ofDict, hcheck, hid.require, hnodes.getD, htoken.getD]
  rfl

lemma survives_findValue_arguments : Survives FindValue.Arguments (fun _ => []) id := by
  refine .of_dict (fun _ => rfl) fun a d hext => ?_
  have hid : Field.id.Reads d a.id := reads_of_extends hext rfl (.bytes _) (readId_bytes _)
  have hkey : Field.valueKey.Reads d a.key := reads_of_extends hext rfl (.bytes _) (readId_bytes _)
  have hcheck : checkEntries d [Field.id.check, Field.valueKey.check] = .ok () :=
    checkEntries_of_extends [Field.id.key, Field.valueKey.key] rfl (by decide) hext
      (by simp [hid.passes, hkey.passes])
  simp only [Payload.ofDict, hcheck, hid.require, hkey.require]
  rfl

lemma survives_findValue_answer : Survives FindValue.Answer (fun a => [a.num])
    fun a => { a with nodes := Contact.received a.nodes } := by
  refine .of_count (fun _ => rfl) fun a i d hnum hext => ?_
  have hid : Field.id.Reads d a.id := reads_of_extends hext rfl (.bytes _) (readId_bytes _)
  have hnodes : Field.nodes.Reads d (Contact.received a.nodes) :=
    reads_of_extends hext rfl (.bytes _) (readContacts_bytes _)
  have htoken : Field.token.Reads d a.token := reads_of_extends hext rfl (.bytes _) rfl
  have hnum : Field.num.Reads d a.num := reads_of_extends hext rfl (.int _) hnum
  have hcheck : checkEntries d
      [Field.id.check, Field.nodes.check, Field.token.check, Field.num.check] = .ok () :=
    checkEntries_of_extends [Field.id.key, Field.nodes.key, Field.num.key, Field.token.key] rfl
      (by decide) hext (by simp [hid.passes, hnodes.passes, htoken.passes, hnum.passes])
  simp only [Payload.ofDict, hcheck, hid.require, hnodes.getD, htoken.getD, hnum.getD]
  rfl

lemma survives_getValue_arguments : Survives GetValue.Arguments (fun a => [a.num]) id := by
  refine .of_count (fun _ => rfl) fun a i d hnum hext => ?_
  have hid : Field.id.Reads d a.id := reads_of_extends hext rfl (.bytes _) (readId_bytes _)
  have hkey : Field.valueKey.Reads d a.key := reads_of_extends hext rfl (.bytes _) (readId_bytes _)
  have hnum : Field.num.Reads d a.num := reads_of_extends hext rfl (.int _) hnum
  have hcheck : checkEntries d [Field.id.check, Field.valueKey.check, Field.num.check] = .ok () :=
    checkEntries_of_extends [Field.id.key, Field.valueKey.key, Field.num.key] rfl (by decide) hext
      (by simp [hid.passes, hkey.passes, hnum.passes])
  simp only [Payload.ofDict, hcheck, hid.require, hkey.require, hnum.getD]
  rfl

lemma survives_getValue_answer : Survives GetValue.Answer (fun _ => []) id := by
  refine .of_dict (fun _ => rfl) fun a d hext => ?_
  have hid : Field.id.Reads d a.id := reads_of_extends hext rfl (.bytes _) (readId_bytes _)
  have hvalues : Field.values.Reads d a.values :=
    reads_of_extends hext rfl (canonical_list_bytes _) (readValues_list _)
  have hcheck : checkEntries d [Field.id.check, Field.values.check] = .ok () :=
    checkEntries_of_extends [Field.id.key, Field.values.key] rfl (by decide) hext
      (by simp [hid.passes, hvalues.passes])
  simp only [Payload.ofDict, hcheck, hid.require, hvalues.getD]
  rfl

lemma survives_storeValue_arguments : Survives StoreValue.Arguments (fun _ => []) id := by
  refine .of_dict (fun _ => rfl) fun a d hext => ?_
  have hid : Field.id.Reads d a.id := reads_of_extends hext rfl (.bytes _) (readId_bytes _)
  have hkey : Field.valueKey.Reads d a.key := reads_of_extends hext rfl (.bytes _) (readId_bytes _)
  have hvalue : Field.value.Reads d a.value := reads_of_extends hext rfl (.bytes _) rfl
  have htoken : Field.token.Reads d a.token := reads_of_extends hext rfl (.bytes _) rfl
  have hcheck : checkEntries d
      [Field.id.check, Field.valueKey.check, Field.value.check, Field.token.check] = .ok () :=
    checkEntries_of_extends [Field.id.key, Field.valueKey.key, Field.value.key, Field.token.key] rfl
      (by decide) hext (by simp [hid.passes, hkey.passes, hvalue.passes, htoken.passes])
  simp only [Payload.ofDict, hcheck, hid.require, hkey.require, hvalue.require, htoken.require]
  rfl

end Types

/-- Every payload survives its way as a dictionary, unless a count is too large for an integer, which
is found out when it is written. Contacts of the newer family do not arrive, and the other ones
arrive without token and number of values. -/
theorem payloads_survive :
    Survives Ping.Arguments (fun _ => []) id ∧
    Survives Ping.Answer (fun _ => []) id ∧
    Survives FindNode.Arguments (fun _ => []) id ∧
    Survives FindNode.Answer (fun _ => []) (fun a => { a with nodes := Contact.received a.nodes }) ∧
    Survives FindValue.Arguments (fun _ => []) id ∧
    Survives FindValue.Answer (fun a => [a.num])
      (fun a => { a with nodes := Contact.received a.nodes }) ∧
    Survives GetValue.Arguments (fun a => [a.num]) id ∧
    Survives GetValue.Answer (fun _ => []) id ∧
    Survives StoreValue.Arguments (fun _ => []) id ∧
    Survives StoreValue.Answer (fun _ => []) id := by
  refine ⟨?_, ?_, survives_findNode_arguments, survives_findNode_answer,
    survives_findValue_arguments, survives_findValue_answer, survives_getValue_arguments,
    survives_getValue_answer, survives_storeValue_arguments, ?_⟩
  all_goals
    refine .of_dict (fun _ => rfl) fun a d hext => ?_
    simp only [Payload.ofDict, idOfDict_eq_ok hext]
    rfl

/-- One identifier for each octet. -/
def octetId (b : UInt8) : Id :=
  ⟨b :: b :: List.replicate 18 0, rfl⟩

/-- An answer with a contact of each family. -/
def mixed : FindValue.Answer :=
  ⟨octetId 1, [⟨octetId 2, ⟨.v6 (.replicate 8 1) 0, 6881⟩, none, 0⟩,
    ⟨octetId 3, ⟨.v4 10 0 0 1, 6881⟩, some [7], 5⟩], [], 3⟩

/-- The answer as a dictionary. -/
def mixedDict : Dict :=
  Dict.ofEntries [idEntry mixed.id, (Field.nodes.key, .bytes (Contact.compactAll mixed.nodes)),
    (Field.num.key, .int 3), (Field.token.key, .bytes [])]

/-- An entry that no payload has. -/
def foreign : List Entry :=
  [([122], .list [.int 0, .dict []])]

/-- A response with the answer and the other entry. -/
def mixedResponse : Message :=
  ⟨[1], none, .response (mixedDict.insertAll foreign)⟩

theorem mixed_survives : mixedResponse.encode.length < UInt64.size ∧
    ∃ m d, Message.decode mixedResponse.encode = .ok m ∧ m.Carries d ∧
      Payload.ofDict d =
        .ok { mixed with nodes := [⟨octetId 3, ⟨.v4 10 0 0 1, 6881⟩, none, 0⟩] } := by
  have hsize : mixedResponse.encode.length < UInt64.size := by cbv
  have hforeign : mixedDict.Further foreign := by
    intro e he
    obtain rfl := List.mem_singleton.1 he
    exact ⟨rfl, by decide⟩
  have hanswer := payloads_survive.2.2.2.2.2.1
  obtain ⟨m, d, hdecode, hcarries, hread⟩ :=
    hanswer.carried mixed mixedDict rfl foreign hforeign mixedResponse (.inl rfl) hsize []
  rw [List.append_nil] at hdecode
  exact ⟨hsize, m, d, hdecode, hcarries, hread [] (by simp [Dict.Further])⟩

end Wire

end Kademlia
