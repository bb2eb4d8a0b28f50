import Kademlia.Proofs.Compact
import Kademlia.Proofs.Storage.Bounds
import Kademlia.Proofs.Wire.Size
import Kademlia.Service.ValueService

/-!
# How long answers get

A value service that never stored a value longer than some width answers with payloads that are bounded
by how many contacts it lists and how many values it keeps for a key. Its errors say little, but for the
one that repeats the name of a method it does not know.
-/

namespace Kademlia.Service

open Bencode Wire Storage

/-- The octets that are enough for every payload. -/
def Settings.room (bounds : Settings) (width : Nat) : Nat :=
  52 * bounds.k + max bounds.maxValues 1 * (2 * width + 2) + 200

/-- Does a payload fit, and is the text of an error short? -/
def Answer.Short (room : Nat) : Answer → Prop
  | .ok payload => payload.toValue.encode.length ≤ room
  | .error e => e.toProtocol.Usual ∧ e.toProtocol.description.utf8ByteSize ≤ 102

variable {bounds : Settings} {width room : Nat}

/-! ### Payloads -/

lemma length_idEntry (id : Id) : (encodeEntry (idEntry id)).length ≤ 46 := by
  have hkey : (encodeBytes Field.id.key).length = 4 := by decide
  have hid := length_encodeBytes_le id.bytes
  rw [id.length_bytes] at hid
  rw [idEntry, length_encodeEntry, Value.encode_bytes]
  omega

lemma length_idDict (id : Id) : (idDict id).toValue.encode.length ≤ 48 := by
  have hid := length_idEntry id
  refine (Dict.length_ofEntries _).trans ?_
  simp only [List.map_cons, List.map_nil, List.sum_cons, List.sum_nil]
  omega

lemma length_nodesEntry_le (cs : List Contact) :
    (encodeEntry (Field.nodes.key, .bytes (Contact.compactAll cs))).length ≤ 52 * cs.length + 9 := by
  have hkey : (encodeBytes Field.nodes.key).length = 7 := by decide
  have hcs := Contact.length_compactAll cs
  have hreceived := Contact.length_received_le cs
  have hbytes := length_encodeBytes_le (Contact.compactAll cs)
  rw [length_encodeEntry, Value.encode_bytes]
  omega

lemma length_tokenEntry_le (m : TokenMint) (requester : Address) :
    (encodeEntry (Field.token.key, .bytes (m.mint requester))).length ≤ 17 := by
  have hkey : (encodeBytes Field.token.key).length = 7 := by decide
  have htoken : (m.mint requester).length = 4 := Bytes.length_ofNat ..
  have hbytes := length_encodeBytes_le (m.mint requester)
  rw [length_encodeEntry, Value.encode_bytes]
  omega

lemma length_values_le {vs : List Bytes} {n : Nat} (hn : vs.length ≤ n)
    (hwidth : ∀ v ∈ vs, v.length ≤ width) :
    ((vs.map Value.bytes).map fun v => v.encode.length).sum ≤ n * (2 * width + 2) := by
  have hsum := List.sum_le_card_nsmul ((vs.map Value.bytes).map fun v => v.encode.length)
    (2 * width + 2) fun length hlength => ?_
  · rw [List.length_map, List.length_map, smul_eq_mul] at hsum
    exact hsum.trans (Nat.mul_le_mul_right _ hn)
  · obtain ⟨w, hw, rfl⟩ := List.mem_map.1 hlength
    obtain ⟨v, hv, rfl⟩ := List.mem_map.1 hw
    have hlong := hwidth v hv
    have hbytes := length_encodeBytes_le v
    rw [Value.encode_bytes]
    omega

/-! ### Answers -/

lemma short_ping (id : Id) (hroom : 48 ≤ room) : (answer (Ping.Answer.mk id)).Short room :=
  (length_idDict id).trans hroom

lemma short_storeValue (id : Id) (hroom : 48 ≤ room) :
    (answer (StoreValue.Answer.mk id)).Short room :=
  (length_idDict id).trans hroom

lemma short_findNode (id : Id) {cs : List Contact} (m : TokenMint) (requester : Address)
    (hroom : 52 * cs.length + 100 ≤ room) :
    (answer (FindNode.Answer.mk id cs (m.mint requester))).Short room := by
  have hid := length_idEntry id
  have hcs := length_nodesEntry_le cs
  have htoken := length_tokenEntry_le m requester
  refine (Dict.length_ofEntries _).trans ?_
  simp only [List.map_cons, List.map_nil, List.sum_cons, List.sum_nil]
  omega

lemma short_findValue (id : Id) {cs : List Contact} (m : TokenMint) (requester : Address) {num : Nat}
    (hnum : num < 10 ^ 20) (hroom : 52 * cs.length + 200 ≤ room) :
    (answer (FindValue.Answer.mk id cs (m.mint requester) num)).Short room := by
  have hid := length_idEntry id
  have hcs := length_nodesEntry_le cs
  have htoken := length_tokenEntry_le m requester
  by_cases hcount : num ≤ Int64.maxValue.toInt
  · have hvalue : countValue num = .ok (.int (Int64.ofInt num)) := if_pos hcount
    have hkey : (encodeBytes Field.num.key).length = 5 := by decide
    have hint := Decimal.length_ofInt_int64 (Int64.ofInt num)
    simp only [answer, Payload.toDict, hvalue]
    refine (Dict.length_ofEntries _).trans ?_
    simp only [List.map_cons, List.map_nil, List.sum_cons, List.sum_nil, length_encodeEntry,
      Value.encode_int, List.length_cons, List.length_append, List.length_nil] at hid hcs htoken ⊢
    omega
  · have hvalue : countValue num = .error (.countTooLarge num) := if_neg hcount
    have hmodest : (PayloadError.countTooLarge num).Modest := hnum
    simp only [answer, Payload.toDict, hvalue]
    exact ⟨ProtocolError.usual_mk _ (by decide), hmodest.size_message⟩

lemma short_getValue (id : Id) {vs : List Bytes} {n : Nat} (hn : vs.length ≤ n)
    (hwidth : ∀ v ∈ vs, v.length ≤ width) (hroom : n * (2 * width + 2) + 100 ≤ room) :
    (answer (GetValue.Answer.mk id vs)).Short room := by
  have hid := length_idEntry id
  have hkey : (encodeBytes Field.values.key).length = 8 := by decide
  have hvs := length_values_le hn hwidth
  refine (Dict.length_ofEntries _).trans ?_
  simp only [List.map_cons, List.map_nil, List.sum_cons, List.sum_nil, length_encodeEntry,
    Value.length_encode_list] at hid ⊢
  omega

/-- A fault in the arguments is answered with a short text. -/
lemma short_malformed {α : Type} [Payload α] {d : Dict} {e : HandlerError}
    (hsparing : Sparing (Payload.ofDict d : Except PayloadError α))
    (h : arguments α d = .error e) : Answer.Short room (.error e) := by
  unfold arguments at h
  cases hd : (Payload.ofDict d : Except PayloadError α) with
  | ok a =>
    rw [hd] at h
    cases h
  | error e' =>
    rw [hd] at h
    obtain rfl := Except.error.inj h
    exact ⟨ProtocolError.usual_mk _ (by decide), (hsparing e' hd).size_message⟩

/-! ### Handlers -/

/-- A method has the handler that it was given last. -/
lemma Registry.handler?_register {σ : Type} (r : Registry σ) (name method : String)
    (handler : Handler σ) :
    (r.register name handler).handler? method =
      if name = method then some handler else r.handler? method := by
  unfold Registry.register Registry.handler?
  by_cases hname : name = method
  · simp [hname]
  · have hkept : (fun h : String × Handler σ => !decide (h.1 = name) && decide (h.1 = method)) =
        fun h => decide (h.1 = method) := by
      funext h
      by_cases hh : h.1 = method
      · simp [hh, Ne.symm hname]
      · simp [hh]
    simp [hname, List.find?_filter, hkept]

namespace ValueService

/-- A service with these bounds whose values are no longer than `width`. -/
structure Bounded (bounds : Settings) (width : Nat) (s : ValueService) : Prop where
  k : s.k = bounds.k
  store : s.store.Bounded (max bounds.maxValues 1) width

variable {s : ValueService}

lemma bounded_start (bounds : Settings) (width now : Nat) (entropy : Entropy) :
    (start bounds now entropy).Bounded bounds width :=
  ⟨rfl, .empty _ _⟩

lemma Bounded.refresh (h : s.Bounded bounds width) (now : Nat) : (s.refresh now).Bounded bounds width := by
  unfold ValueService.refresh
  split
  · exact ⟨h.k, h.store⟩
  · exact h

lemma Bounded.localValues (h : s.Bounded bounds width) (key : Id) :
    (s.localValues key).2.Bounded bounds width :=
  ⟨h.k, (h.store.get s.entropy key 0).2⟩

/-- A handler that keeps the bounds and whose answers are short. -/
def Tame (bounds : Settings) (width : Nat) (handler : Handler ValueService) : Prop :=
  ∀ c d s, s.Bounded bounds width → d.weight ≤ width →
    (handler c d s).1.Short (bounds.room width) ∧ (handler c d s).2.Bounded bounds width

lemma tame_ping : Tame bounds width ping :=
  fun c _ _ hs _ => ⟨short_ping c.id (by unfold Settings.room; omega), hs⟩

lemma length_closest_le (t : Routing.Table) (target : Id) (n : Nat) :
    (t.closest target n).length ≤ n := by
  unfold Routing.Table.closest
  rw [List.length_take]
  exact min_le_left _ _

lemma tame_findNode (hwidth : width < 10 ^ 20) : Tame bounds width findNode := by
  intro c d s hs hd
  unfold findNode
  split
  · next e he => exact ⟨short_malformed (sparing_findNode (by omega)) he, hs⟩
  · next a ha =>
    have hcs := length_closest_le c.table a.target s.k
    rw [hs.k] at hcs ⊢
    exact ⟨short_findNode _ _ _ (by unfold Settings.room; omega), hs⟩

lemma tame_findValue (hwidth : width < 10 ^ 20) (hvalues : bounds.maxValues < 10 ^ 20) :
    Tame bounds width findValue := by
  intro c d s hs hd
  unfold findValue
  split
  · next e he => exact ⟨short_malformed (sparing_findValue (by omega)) he, hs⟩
  · next a ha =>
    have hcs := length_closest_le c.table a.key s.k
    have hcount : s.store.count a.key ≤ max bounds.maxValues 1 := (hs.store.peek a.key).1
    rw [hs.k] at hcs ⊢
    exact ⟨short_findValue _ _ _ (by omega) (by unfold Settings.room; omega), hs⟩

lemma tame_getValue (hwidth : width < 10 ^ 20) : Tame bounds width getValue := by
  intro c d s hs hd
  unfold getValue
  split
  · next e he => exact ⟨short_malformed (sparing_getValue (by omega)) he, hs⟩
  · next a ha =>
    obtain ⟨⟨hlength, hlong⟩, hstore⟩ := hs.store.get s.entropy a.key a.num
    exact ⟨short_getValue _ hlength hlong (by unfold Settings.room; omega), hs.k, hstore⟩

lemma tame_storeValue (hwidth : width < 10 ^ 20) : Tame bounds width storeValue := by
  intro c d s hs hd
  unfold storeValue
  split
  · next e he => exact ⟨short_malformed (sparing_storeValue (by omega)) he, hs⟩
  · next a ha =>
    split
    · have hvalue : a.value.length ≤ width := (length_value_le (mapError_eq_ok.1 ha)).trans hd
      exact ⟨short_storeValue _ (by unfold Settings.room; omega), hs.k, hs.store.insert a.key hvalue⟩
    · exact ⟨⟨ProtocolError.usual_mk _ (by decide), by decide⟩, hs⟩

/-- The handlers of the five verbs are tame. -/
lemma tame_of_handler? (hwidth : width < 10 ^ 20) (hvalues : bounds.maxValues < 10 ^ 20)
    {method : String} {handler : Handler ValueService}
    (h : registry.handler? method = some handler) : Tame bounds width handler := by
  simp only [registry, Registry.handler?_register] at h
  split_ifs at h
  · exact Option.some.inj h ▸ tame_storeValue hwidth
  · exact Option.some.inj h ▸ tame_getValue hwidth
  · exact Option.some.inj h ▸ tame_findValue hwidth hvalues
  · exact Option.some.inj h ▸ tame_findNode hwidth
  · exact Option.some.inj h ▸ tame_ping
  · cases h

/-- And there are no others. -/
lemma not_mem_requiredMethods {method : String} (h : registry.handler? method = none) :
    method ∉ requiredMethods := by
  simp only [registry, Registry.handler?_register] at h
  split_ifs at h with hstore hget hfind hnode hping
  simp only [requiredMethods, List.mem_cons, List.not_mem_nil, or_false, not_or]
  exact ⟨Ne.symm hping, Ne.symm hnode, Ne.symm hfind, Ne.symm hget, Ne.symm hstore⟩

/-- A request keeps the bounds, and it is answered with little unless its method is unknown. -/
theorem Bounded.handle (h : s.Bounded bounds width) (hwidth : width < 10 ^ 20)
    (hvalues : bounds.maxValues < 10 ^ 20) (now : Nat) (c : Context) {q : Query}
    (hq : q.arguments.weight ≤ width) :
    (s.handle now c q).2.Bounded bounds width ∧
      ((s.handle now c q).1.Short (bounds.room width) ∨ q.method ∉ requiredMethods ∧
        (s.handle now c q).1 = .error (.protocol (.methodUnknown q.method))) := by
  have hrefresh := h.refresh now
  unfold ValueService.handle
  dsimp only
  split
  · next handler hhandler =>
    obtain ⟨hshort, hbounded⟩ :=
      tame_of_handler? hwidth hvalues hhandler c q.arguments _ hrefresh hq
    exact ⟨hbounded, .inl hshort⟩
  · next hunknown =>
    exact ⟨hrefresh, .inr ⟨not_mem_requiredMethods hunknown, rfl⟩⟩

end ValueService

end Kademlia.Service
