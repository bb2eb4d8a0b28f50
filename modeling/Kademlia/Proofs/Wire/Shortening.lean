import Kademlia.Proofs.Bencode.Length
import Kademlia.Wire.Message

/-!
# Shortening responses

A response that is too long is sent with as many of its values as there is room for, and never with
one fewer. How many these are does not depend on where the search for their number starts.
-/

namespace Kademlia.Wire

open Bencode

namespace Message

/-! ### The search for the number of items -/

/-- How long the written form of a list is with its first `k` items only. -/
def lengthWith (lengths : List Nat) (k : Nat) : Nat :=
  2 + (lengths.take k).sum

/-- The first `k` items fit, and no more of them do. -/
structure Fits (lengths : List Nat) (room k : Nat) : Prop where
  le : k ≤ lengths.length
  fits : lengthWith lengths k ≤ room
  most : ∀ j, k < j → j ≤ lengths.length → room < lengthWith lengths j

section Search

variable {lengths : List Nat} {room c : Nat}

lemma listLength_eq (lengths : List Nat) : listLength lengths = 2 + lengths.sum := by
  induction lengths with
  | nil => rfl
  | cons n lengths ih =>
    rw [listLength, List.foldr_cons, List.sum_cons, Nat.add_left_comm, ← ih]
    rfl

lemma lengthWith_zero (lengths : List Nat) : lengthWith lengths 0 = 2 :=
  rfl

lemma lengthWith_succ (hc : c < lengths.length) :
    lengthWith lengths (c + 1) = lengthWith lengths c + lengths[c] := by
  rw [lengthWith, lengthWith, List.take_succ_eq_append_getElem hc, List.sum_append,
    List.sum_singleton, Nat.add_assoc]

lemma reverse_take_succ (hc : c < lengths.length) :
    (lengths.take (c + 1)).reverse = lengths[c] :: (lengths.take c).reverse := by
  rw [List.take_succ_eq_append_getElem hc, List.reverse_append, List.reverse_singleton,
    List.singleton_append]

/-- Every item makes a list longer. -/
lemma lengthWith_lt (hpos : ∀ n ∈ lengths, 0 < n) {j k : Nat} (hjk : j < k)
    (hk : k ≤ lengths.length) : lengthWith lengths j < lengthWith lengths k := by
  induction k, hjk using Nat.le_induction with
  | base =>
    rw [lengthWith_succ hk]
    exact Nat.lt_add_of_pos_right (hpos _ (List.getElem_mem hk))
  | succ k hjk ih =>
    rw [lengthWith_succ hk]
    exact (ih (Nat.le_of_succ_le hk)).trans_le (Nat.le_add_right _ _)

/-- Going up ends with all items or where the list is no longer too short. -/
lemma exists_takeIn (room : Nat) (hc : c ≤ lengths.length) : ∃ d, d ≤ lengths.length ∧
    takeIn room (lengthWith lengths c) (lengths.take c).reverse (lengths.drop c) =
      (lengthWith lengths d, (lengths.take d).reverse) ∧
    (d = lengths.length ∨ room ≤ lengthWith lengths d) := by
  induction hc using Nat.decreasingInduction with
  | self => exact ⟨lengths.length, le_rfl, by rw [List.drop_length, takeIn], .inl rfl⟩
  | of_succ c hc ih =>
    rw [List.drop_eq_getElem_cons hc, takeIn, ← lengthWith_succ hc, ← reverse_take_succ hc]
    split_ifs with hroom
    · exact ih
    · exact ⟨c, hc.le, rfl, .inr (Nat.le_of_not_lt hroom)⟩

/-- Going down ends with the first list that is not too long, or without items. -/
lemma giveBack_spec (room : Nat) (hc : c ≤ lengths.length) :
    let k := giveBack room (lengthWith lengths c) (lengths.take c).reverse
    k ≤ c ∧ (k = 0 ∨ lengthWith lengths k ≤ room) ∧
      ∀ j, k < j → j ≤ c → room < lengthWith lengths j := by
  induction c with
  | zero => exact ⟨le_rfl, .inl rfl, fun j hj hjz => absurd hjz (Nat.not_le_of_lt hj)⟩
  | succ c ih =>
    obtain ⟨hle, hfits, hmost⟩ := ih (Nat.le_of_succ_le hc)
    have hback : lengthWith lengths (c + 1) - lengths[c] = lengthWith lengths c := by
      rw [lengthWith_succ hc, Nat.add_sub_cancel]
    rw [reverse_take_succ hc, giveBack, hback]
    split_ifs with hroom
    · refine ⟨hle.trans (Nat.le_succ c), hfits, fun j hj hjc => ?_⟩
      rcases Nat.le_succ_iff.1 hjc with hjc | rfl
      · exact hmost j hj hjc
      · exact hroom
    · rw [List.length_reverse, List.length_take_of_le (Nat.le_of_succ_le hc)]
      exact ⟨le_rfl, .inr (Nat.le_of_not_lt hroom), fun j hj hjc => absurd hjc (Nat.not_le_of_lt hj)⟩

/-- From wherever the search starts, it ends with the number of items that fit. -/
lemma itemsWithin_spec (hpos : ∀ n ∈ lengths, 0 < n) (skip : List Nat → Nat → Nat) (excess : Nat)
    (hroom : excess + 2 ≤ 2 + lengths.sum) :
    ∃ k, itemsWithin skip lengths excess = some k ∧ Fits lengths (2 + lengths.sum - excess) k := by
  set room := 2 + lengths.sum - excess with hdef
  have hstart : lengths.length - skip lengths excess ≤ lengths.length := Nat.sub_le _ _
  obtain ⟨d, hd, htake, hend⟩ := exists_takeIn room hstart
  obtain ⟨hle, hfits, hmost⟩ := giveBack_spec room hd
  refine ⟨giveBack room (lengthWith lengths d) (lengths.take d).reverse, ?_, hle.trans hd, ?_, ?_⟩
  · have hlong : ¬ 2 + lengths.sum < excess + 2 := Nat.not_lt.2 hroom
    rw [lengthWith] at htake
    simp only [itemsWithin, listLength_eq, if_neg hlong, ← hdef, htake]
  · rcases hfits with hzero | hfits
    · rw [hzero, lengthWith_zero]
      omega
    · exact hfits
  · intro j hj hjn
    rcases Nat.lt_or_ge d j with hdj | hjd
    · -- the way up ended before the last item, so the list was long enough there
      have hroom' := hend.resolve_left (hdj.trans_le hjn).ne
      exact hroom'.trans_lt (lengthWith_lt hpos hdj hjn)
    · exact hmost j hj hjd

lemma Fits.eq {k k' : Nat} (h : Fits lengths room k) (h' : Fits lengths room k') : k = k' := by
  rcases Nat.lt_trichotomy k k' with hlt | heq | hlt
  · exact absurd h'.fits (Nat.not_le_of_lt (h.most k' hlt h'.le))
  · exact heq
  · exact absurd h.fits (Nat.not_le_of_lt (h'.most k hlt h.le))

lemma itemsWithin_eq_none (skip : List Nat → Nat → Nat) {excess : Nat}
    (hroom : 2 + lengths.sum < excess + 2) : itemsWithin skip lengths excess = none := by
  simp only [itemsWithin, listLength_eq, if_pos hroom]

/-- The number of items does not depend on where the search starts. -/
lemma itemsWithin_congr (hpos : ∀ n ∈ lengths, 0 < n) (skip skip' : List Nat → Nat → Nat)
    (excess : Nat) : itemsWithin skip lengths excess = itemsWithin skip' lengths excess := by
  rcases Nat.lt_or_ge (2 + lengths.sum) (excess + 2) with hroom | hroom
  · rw [itemsWithin_eq_none skip hroom, itemsWithin_eq_none skip' hroom]
  · obtain ⟨k, hk, hfits⟩ := itemsWithin_spec hpos skip excess hroom
    obtain ⟨k', hk', hfits'⟩ := itemsWithin_spec hpos skip' excess hroom
    rw [hk, hk', hfits.eq hfits']

end Search

/-! ### Responses with some of their values -/

lemma length_encode_pos (vs : List Value) : ∀ n ∈ vs.map fun v => v.encode.length, 0 < n := by
  intro n hn
  obtain ⟨v, -, rfl⟩ := List.mem_map.1 hn
  obtain ⟨b, bs, heq, -⟩ := exists_head v
  rw [heq]
  exact Nat.succ_pos _

/-- How long a response gets with some values. -/
lemma exists_length_values (m : Message) (payload : Dict) :
    ∃ n, ∀ vs : List Value, (∀ v ∈ vs, v.Canonical) →
      (m.withPayload (payload.insert Key.values (.list vs))).encode.length =
        n + (vs.map fun v => v.encode.length).sum := by
  obtain ⟨transaction, version, body⟩ := m
  obtain ⟨k, hk⟩ := payload.exists_length_insert Key.values
  refine ⟨(encodeBytes Key.r).length + k + 2 + ((([(Key.t, Value.bytes transaction)] ++
    (version.map fun v => (Key.v, Value.bytes v)).toList ++
    [(Key.y, Value.bytes Key.r)]).map fun e => (encodeEntry e).length).sum + 2), fun vs hvs => ?_⟩
  have hlength := hk (.list vs) (.list hvs)
  rw [Value.length_encode_list] at hlength
  rw [encode, toValue, Value.length_encode_dict]
  simp only [withPayload, Body.entries, Body.type, List.map_append, List.map_cons, List.map_nil,
    List.sum_append, List.sum_cons, List.sum_nil, encodeEntry, List.length_append] at hlength ⊢
  omega

/-- What `received` is of `m`: the same response, with the first `k` of its values only. -/
structure Abridges (received m : Message) (k : Nat) : Prop where
  transaction : received.transaction = m.transaction
  version : received.version = m.version
  body : ∃ payload values payload', m.body = .response payload ∧
    payload.get? Key.values = some (.list values) ∧ received.body = .response payload' ∧
    payload'.get? Key.values = some (.list (values.take k)) ∧
    ∀ key, key ≠ Key.values → payload'.get? key = payload.get? key

section Abridges

variable {m received : Message} {payload : Dict} {values : List Value}
  (hbody : m.body = .response payload) (hvalues : payload.get? Key.values = some (.list values))

include hvalues in
lemma canonical_of_mem_values : ∀ v ∈ values, v.Canonical := by
  cases Dict.canonical_of_get? hvalues with
  | list inner => exact inner

include hvalues in
lemma normal_take (k : Nat) : (Value.list (values.take k)).normal = .list (values.take k) :=
  Value.normal_of_canonical (.list fun v hv =>
    canonical_of_mem_values hvalues v (List.mem_of_mem_take hv))

include hbody hvalues

/-- There is one response with the first `k` values only. -/
lemma abridges_iff (k : Nat) : received.Abridges m k ↔
    received = m.withPayload (payload.insert Key.values (.list (values.take k))) := by
  have hnormal := normal_take hvalues k
  constructor
  · rintro ⟨htransaction, hversion, payload₀, values₀, payload', hbody₀, hvalues₀, hreceived, hfirst,
      hrest⟩
    obtain rfl := Body.response.inj (hbody.symm.trans hbody₀)
    obtain rfl := Value.list.inj (Option.some.inj (hvalues.symm.trans hvalues₀))
    have hpayload : payload' = payload.insert Key.values (.list (values.take k)) := by
      refine Dict.ext_get? fun key => ?_
      rw [Dict.get?_insert, hnormal]
      split_ifs with hkey
      · rw [← hkey, hfirst]
      · exact hrest key (Ne.symm hkey)
    obtain ⟨transaction, version, body⟩ := received
    simp only at htransaction hversion hreceived
    rw [withPayload, htransaction, hversion, hreceived, hpayload]
  · rintro rfl
    refine ⟨rfl, rfl, payload, values, _, hbody, hvalues, rfl, ?_, fun key hkey => ?_⟩
    · rw [Dict.get?_insert, if_pos rfl, hnormal]
    · rw [Dict.get?_insert, if_neg (Ne.symm hkey)]

/-- A response with all of its values is the response. -/
lemma withPayload_values : m.withPayload (payload.insert Key.values (.list values)) = m := by
  have hself : m.Abridges m values.length :=
    ⟨rfl, rfl, payload, values, payload, hbody, hvalues, hbody,
      by rw [List.take_length, hvalues], fun _ _ => rfl⟩
  have hall := (abridges_iff hbody hvalues values.length).1 hself
  rw [List.take_length] at hall
  exact hall.symm

/-- How long the response gets with its first values only. -/
lemma exists_length_take : ∃ n,
    (∀ k, (m.withPayload (payload.insert Key.values (.list (values.take k)))).encode.length + 2 =
      n + lengthWith (values.map fun v => v.encode.length) k) ∧
    m.encode.length = n + (values.map fun v => v.encode.length).sum := by
  obtain ⟨n, hn⟩ := m.exists_length_values payload
  have hcanonical := canonical_of_mem_values hvalues
  refine ⟨n, fun k => ?_, ?_⟩
  · rw [hn _ fun v hv => hcanonical v (List.mem_of_mem_take hv), lengthWith, List.map_take]
    omega
  · rw [← hn _ hcanonical, withPayload_values hbody hvalues]

lemma encodeWithinFrom_of_some {limit k : Nat} (hlong : limit < m.encode.length)
    {skip : List Nat → Nat → Nat}
    (hk : itemsWithin skip (values.map fun v => v.encode.length) (m.encode.length - limit) = some k)
    (hle : (m.withPayload (payload.insert Key.values (.list (values.take k)))).encode.length ≤ limit) :
    m.encodeWithinFrom skip limit =
      (m.withPayload (payload.insert Key.values (.list (values.take k)))).encode := by
  simp only [encodeWithinFrom, if_neg (Nat.not_le_of_lt hlong), hbody, hvalues, hk, if_pos hle]

lemma encodeWithinFrom_of_none {limit : Nat} (hlong : limit < m.encode.length)
    {skip : List Nat → Nat → Nat}
    (hnone : itemsWithin skip (values.map fun v => v.encode.length) (m.encode.length - limit) = none) :
    m.encodeWithinFrom skip limit =
      { m with body := .error (.responseTooLong m.encode.length) }.encode := by
  simp only [encodeWithinFrom, if_neg (Nat.not_le_of_lt hlong), hbody, hvalues, hnone]

/-- If there is room for the response without values, it is sent with those that fit. -/
lemma exists_encodeWithinFrom {limit : Nat} (hlong : limit < m.encode.length)
    (hbare : (m.withPayload (payload.insert Key.values (.list (values.take 0)))).encode.length ≤ limit)
    (skip : List Nat → Nat → Nat) :
    ∃ k, m.encodeWithinFrom skip limit =
        (m.withPayload (payload.insert Key.values (.list (values.take k)))).encode ∧
      (m.withPayload (payload.insert Key.values (.list (values.take k)))).encode.length ≤ limit ∧
      ∀ j, k < j → limit <
        (m.withPayload (payload.insert Key.values (.list (values.take j)))).encode.length := by
  obtain ⟨n, hn, hfull⟩ := exists_length_take hbody hvalues
  have hzero := hn 0
  rw [lengthWith_zero] at hzero
  obtain ⟨k, hk, hfits⟩ := itemsWithin_spec (length_encode_pos values) skip
    (m.encode.length - limit) (by omega)
  have hle : (m.withPayload (payload.insert Key.values (.list (values.take k)))).encode.length ≤
      limit := by
    have hlength := hn k
    have hroom := hfits.fits
    omega
  refine ⟨k, encodeWithinFrom_of_some hbody hvalues hlong hk hle, hle, fun j hj => ?_⟩
  rcases Nat.le_total j values.length with hjn | hjn
  · have hlength := hn j
    have hmost := hfits.most j hj (by rwa [List.length_map])
    omega
  · rwa [List.take_of_length_le hjn, withPayload_values hbody hvalues]

/-- If there is no room for the response even without values, an error is sent. -/
lemma encodeWithinFrom_bare {limit : Nat} (hlong : limit < m.encode.length)
    (hbare : limit <
      (m.withPayload (payload.insert Key.values (.list (values.take 0)))).encode.length)
    (skip : List Nat → Nat → Nat) :
    m.encodeWithinFrom skip limit =
      { m with body := .error (.responseTooLong m.encode.length) }.encode := by
  obtain ⟨n, hn, hfull⟩ := exists_length_take hbody hvalues
  have hzero := hn 0
  rw [lengthWith_zero] at hzero
  exact encodeWithinFrom_of_none hbody hvalues hlong (itemsWithin_eq_none skip (by omega))

end Abridges

/-! ### Datagrams within a limit -/

/-- Where the search starts makes no difference to the datagram. -/
lemma encodeWithinFrom_congr (skip skip' : List Nat → Nat → Nat) (m : Message) (limit : Nat) :
    m.encodeWithinFrom skip limit = m.encodeWithinFrom skip' limit := by
  unfold encodeWithinFrom
  simp only [itemsWithin_congr (length_encode_pos _) skip skip']

/-- An abridged response has a list of values to take from. -/
lemma Abridges.exists_values {received m : Message} {k : Nat} (h : received.Abridges m k) :
    ∃ payload values, m.body = .response payload ∧
      payload.get? Key.values = some (.list values) := by
  obtain ⟨payload, values, -, hbody, hvalues, -⟩ := h.body
  exact ⟨payload, values, hbody, hvalues⟩

/-- A message is encoded in at most `limit` octets exactly as far as that is possible. One that fits
is sent as it is, and so is one that is no response. Of any other the longest front part of its values
is sent with which it fits, and never one value fewer, all else unchanged, as long as there is a list
of values and room for the response without them. Otherwise the error is sent that says how long the
response was. Where the search for the number of values starts makes no difference. -/
theorem encodeWithin_exact (m : Message) (limit : Nat) :
    (∀ skip, m.encodeWithinFrom skip limit = m.encodeWithin limit) ∧
    ((m.encode.length ≤ limit ∨ ∀ payload, m.body ≠ .response payload) →
      m.encodeWithin limit = m.encode) ∧
    ∀ payload, m.body = .response payload → limit < m.encode.length →
      ((∃ bare : Message, bare.Abridges m 0 ∧ bare.encode.length ≤ limit) →
        ∃ k, ∃ kept : Message, kept.Abridges m k ∧ m.encodeWithin limit = kept.encode ∧
          kept.encode.length ≤ limit ∧
          ∀ j, k < j → ∀ more : Message, more.Abridges m j → limit < more.encode.length) ∧
      ((¬ ∃ bare : Message, bare.Abridges m 0 ∧ bare.encode.length ≤ limit) →
        m.encodeWithin limit = (Message.mk m.transaction m.version
          (.error ⟨206, s!"response was {m.encode.length} bytes"⟩)).encode) := by
  refine ⟨fun skip => encodeWithinFrom_congr skip proportion m limit, ?_, ?_⟩
  · intro h
    rw [encodeWithin, encodeWithinFrom]
    by_cases hfull : m.encode.length ≤ limit
    · rw [if_pos hfull]
    · have hother := h.resolve_left hfull
      rw [if_neg hfull]
      split
      · next payload hbody => exact absurd hbody (hother payload)
      · rfl
  · intro payload hbody hlong
    constructor
    · rintro ⟨bare, habridges, hbare⟩
      obtain ⟨payload, values, hbody, hvalues⟩ := habridges.exists_values
      rw [abridges_iff hbody hvalues] at habridges
      obtain ⟨k, heq, hle, hmost⟩ :=
        exists_encodeWithinFrom hbody hvalues hlong (habridges ▸ hbare) proportion
      refine ⟨k, _, (abridges_iff hbody hvalues k).2 rfl, heq, hle, ?_⟩
      intro j hj more hmore
      rw [(abridges_iff hbody hvalues j).1 hmore]
      exact hmost j hj
    · intro hbare
      by_cases hlist : ∃ values, payload.get? Key.values = some (.list values)
      · obtain ⟨values, hvalues⟩ := hlist
        refine encodeWithinFrom_bare hbody hvalues hlong (Nat.lt_of_not_le fun hle => hbare ?_) proportion
        exact ⟨_, (abridges_iff hbody hvalues 0).2 rfl, hle⟩
      · rw [encodeWithin, encodeWithinFrom]
        simp only [if_neg (Nat.not_le_of_lt hlong), hbody]
        split
        · next values hvalues => exact absurd ⟨values, hvalues⟩ hlist
        · rfl

section Example

/-- Values of all kinds, a long one among short ones. -/
def unevenValues : List Value :=
  [.bytes [1], .int 5, .bytes [1, 2, 3, 4, 5, 6, 7, 8, 9], .list []]

/-- A response with these values. -/
def uneven : Message :=
  ⟨[7], none, .response (.ofEntries [(Key.values, .list unevenValues), (Key.id, .bytes [])])⟩

/-- There is no room for the third value, so the fourth is not sent either. -/
theorem encodeWithin_exact_uneven :
    uneven.encode.length = 54 ∧ (uneven.encodeWithin 51).length = 41 ∧
    ∃ k, ∃ kept : Message, kept.Abridges uneven k ∧ uneven.encodeWithin 51 = kept.encode ∧
      kept.encode.length ≤ 51 ∧
      ∀ j, k < j → ∀ more : Message, more.Abridges uneven j → 51 < more.encode.length := by
  have hlength : uneven.encode.length = 54 := by cbv
  have hsent : (uneven.encodeWithin 51).length = 41 := by cbv
  have hvalues : (Dict.ofEntries [(Key.values, .list unevenValues), (Key.id, .bytes [])]).get?
      Key.values = some (.list unevenValues) := by cbv
  obtain ⟨-, -, hexact⟩ := encodeWithin_exact uneven 51
  refine ⟨hlength, hsent, (hexact _ rfl (by rw [hlength]; decide)).1 ?_⟩
  refine ⟨_, (abridges_iff rfl hvalues 0).2 rfl, ?_⟩
  cbv

end Example

end Message

end Kademlia.Wire
