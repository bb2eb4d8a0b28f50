import Kademlia.Contact
import Mathlib.Data.Set.Function

/-!
# Contacts in compact form

Octets are read as contacts exactly if their number is a multiple of 26, and what was read is written as
the same octets. What is written of some contacts is read as those of the older family, with nothing but
identifier and address. So writing is one to one between the lists of such contacts and the octets that
can be read.
-/

namespace Kademlia.Contact

/-! ### The octets of a port -/

section Port

variable (high low : UInt8) (p : UInt16)

lemma toNat_high : (p >>> 8).toUInt8.toNat = p.toNat / 256 := by
  have hp := p.toNat_lt
  simp only [UInt16.toNat_toUInt8, UInt16.toNat_shiftRight, UInt16.reduceToNat, Nat.reduceMod]
  omega

lemma toNat_low : p.toUInt8.toNat = p.toNat % 256 :=
  UInt16.toNat_toUInt8 p

lemma toNat_of_halves :
    (high.toUInt16 <<< 8 ||| low.toUInt16).toNat = high.toNat * 256 + low.toNat := by
  have hhigh := high.toNat_lt
  have hlow : low.toNat < 2 ^ 8 := low.toNat_lt
  have hshift : high.toNat <<< 8 % 65536 = high.toNat <<< 8 := by omega
  simp only [UInt16.toNat_or, UInt16.toNat_shiftLeft, UInt8.toNat_toUInt16, UInt16.reduceToNat,
    Nat.reducePow, Nat.reduceMod, hshift]
  -- the halves have no bit in common, so the disjunction is their sum
  rw [← Nat.shiftLeft_add_eq_or_of_lt hlow]
  omega

lemma port_halves : (p >>> 8).toUInt8.toUInt16 <<< 8 ||| p.toUInt8.toUInt16 = p := by
  refine UInt16.toNat_inj.1 ?_
  rw [toNat_of_halves, toNat_high, toNat_low]
  omega

lemma high_of_halves : ((high.toUInt16 <<< 8 ||| low.toUInt16) >>> 8).toUInt8 = high := by
  have hlow := low.toNat_lt
  refine UInt8.toNat_inj.1 ?_
  rw [toNat_high, toNat_of_halves]
  omega

lemma low_of_halves : (high.toUInt16 <<< 8 ||| low.toUInt16).toUInt8 = low := by
  have hlow := low.toNat_lt
  refine UInt8.toNat_inj.1 ?_
  rw [toNat_low, toNat_of_halves]
  omega

/-- The octets of a port are its digits, the high one first. -/
lemma ofNat_port : Bytes.ofNat 2 p.toNat = [(p >>> 8).toUInt8, p.toUInt8] := by
  have hp := p.toNat_lt
  have hhigh : UInt8.ofNat (p.toNat / 256 % 256) = (p >>> 8).toUInt8 := by
    refine UInt8.toNat_inj.1 ?_
    rw [UInt8.toNat_ofNat', toNat_high]
    omega
  have hlow : UInt8.ofNat (p.toNat % 256) = p.toUInt8 := by
    refine UInt8.toNat_inj.1 ?_
    rw [UInt8.toNat_ofNat', toNat_low]
    omega
  simp only [Bytes.ofNat, hhigh, hlow, List.nil_append, List.cons_append]

end Port

/-! ### What arrives -/

variable {c : Contact} {cs : List Contact} {bs : Bytes}

/-- What arrives of some contacts. -/
def received (cs : List Contact) : List Contact :=
  (cs.filter fun c => c.address.ip.isV4).map bare

lemma received_cons_of_isV4 (h : c.address.ip.isV4) : received (c :: cs) = c.bare :: received cs := by
  simp [received, h]

lemma received_cons_of_not_isV4 (h : ¬ c.address.ip.isV4) : received (c :: cs) = received cs := by
  simp [received, h]

lemma length_received_le (cs : List Contact) : (received cs).length ≤ cs.length := by
  rw [received, List.length_map]
  exact List.length_filter_le ..

lemma bare_eq_self_iff : c.bare = c ↔ c.token = none ∧ c.announced = 0 := by
  obtain ⟨id, address, token, announced⟩ := c
  simp only [bare, mk.injEq, true_and, @eq_comm _ none, @eq_comm _ 0]

/-- Those contacts arrive as they are that are of the older family and have nothing to lose. -/
lemma received_eq_self_iff :
    received cs = cs ↔ ∀ c ∈ cs, c.address.ip.isV4 ∧ c.bare = c := by
  constructor
  · intro h c hc
    rw [← h, received, List.mem_map] at hc
    obtain ⟨d, hd, rfl⟩ := hc
    exact ⟨(List.mem_filter.1 hd).2, rfl⟩
  · intro h
    rw [received, List.filter_eq_self.2 fun c hc => (h c hc).1]
    exact (List.map_congr_left fun c hc => (h c hc).2).trans (List.map_id cs)

/-! ### One contact -/

/-- Identifier, octets of the IP and digits of the port. -/
lemma compact_of_isV4 (h : c.address.ip.isV4) :
    c.compact = c.id.bytes ++ c.address.ip.octets ++ Bytes.ofNat 2 c.address.port.toNat := by
  obtain ⟨id, ⟨ip, port⟩, token, announced⟩ := c
  cases ip with
  | v6 groups zone => simp [Ip.isV4] at h
  | v4 a b d e => simp [compact, Ip.octets, ofNat_port]

lemma compact_of_not_isV4 (h : ¬ c.address.ip.isV4) : c.compact = [] := by
  obtain ⟨id, ⟨ip, port⟩, token, announced⟩ := c
  cases ip with
  | v4 a b d e => simp [Ip.isV4] at h
  | v6 groups zone => rfl

lemma length_compact (h : c.address.ip.isV4) : c.compact.length = 26 := by
  obtain ⟨id, ⟨ip, port⟩, token, announced⟩ := c
  cases ip with
  | v6 groups zone => simp [Ip.isV4] at h
  | v4 a b d e => simp [compact, id.length_bytes]

lemma ofCompact?_compact (h : c.address.ip.isV4) : ofCompact? c.compact = some c.bare := by
  obtain ⟨id, ⟨ip, port⟩, token, announced⟩ := c
  cases ip with
  | v6 groups zone => simp [Ip.isV4] at h
  | v4 a b d e =>
    have hid := id.length_bytes
    rw [compact, ofCompact?, List.take_left' hid, List.drop_left' hid, Id.ofBytes?, dif_pos hid]
    simp only [port_halves, bare]

/-- Any 26 octets are those of a contact. -/
lemma exists_ofCompact? (h : bs.length = 26) :
    ∃ c, ofCompact? bs = some c ∧ c.compact = bs ∧ c.address.ip.isV4 ∧ c.bare = c := by
  have hid : (bs.take 20).length = 20 := by simp [h]
  have haddress : (bs.drop 20).length = 6 := by simp [h]
  obtain ⟨a, b, d, e, high, low, hdrop⟩ : ∃ a b d e high low, bs.drop 20 = [a, b, d, e, high, low] := by
    match bs.drop 20, haddress with
    | [a, b, d, e, high, low], _ => exact ⟨a, b, d, e, high, low, rfl⟩
  refine ⟨⟨⟨bs.take 20, hid⟩, ⟨.v4 a b d e, high.toUInt16 <<< 8 ||| low.toUInt16⟩, none, 0⟩, ?_, ?_,
    rfl, rfl⟩
  · rw [ofCompact?, hdrop, Id.ofBytes?, dif_pos hid]
  · simp only [compact, high_of_halves, low_of_halves]
    rw [← hdrop, List.take_append_drop]

/-! ### Several contacts -/

lemma compactAll_cons : compactAll (c :: cs) = c.compact ++ compactAll cs :=
  List.flatMap_cons

lemma compactAll_eq_flatMap (cs : List Contact) :
    compactAll cs = (cs.filter fun c => c.address.ip.isV4).flatMap fun c =>
      c.id.bytes ++ c.address.ip.octets ++ Bytes.ofNat 2 c.address.port.toNat := by
  induction cs with
  | nil => rfl
  | cons c cs ih =>
    by_cases h : c.address.ip.isV4
    · simp only [compactAll_cons, compact_of_isV4 h, ih, List.filter_cons, h, if_true, List.flatMap_cons]
    · rw [compactAll_cons, compact_of_not_isV4 h, ih, List.filter_cons, if_neg h, List.nil_append]

/-- As many octets as the contacts that arrive need. -/
lemma length_compactAll (cs : List Contact) : (compactAll cs).length = 26 * (received cs).length := by
  induction cs with
  | nil => rfl
  | cons c cs ih =>
    by_cases h : c.address.ip.isV4
    · rw [compactAll_cons, received_cons_of_isV4 h, List.length_append, length_compact h, ih,
        List.length_cons]
      omega
    · rw [compactAll_cons, compact_of_not_isV4 h, received_cons_of_not_isV4 h, List.nil_append, ih]

lemma ofCompactRun?_compactAll (cs : List Contact) :
    ofCompactRun? (received cs).length (compactAll cs) = some (received cs) := by
  induction cs with
  | nil => rfl
  | cons c cs ih =>
    by_cases h : c.address.ip.isV4
    · have hlength := length_compact h
      rw [compactAll_cons, received_cons_of_isV4 h, List.length_cons, ofCompactRun?,
        List.take_left' hlength, List.drop_left' hlength, ofCompact?_compact h, ih]
      rfl
    · rw [compactAll_cons, compact_of_not_isV4 h, received_cons_of_not_isV4 h, List.nil_append, ih]

lemma ofCompactAll_compactAll (cs : List Contact) :
    ofCompactAll (compactAll cs) = .ok (received cs) := by
  rw [ofCompactAll, length_compactAll, Nat.mul_mod_right, if_pos rfl,
    Nat.mul_div_cancel_left _ (by decide), ofCompactRun?_compactAll]

/-- Any octets of the right number are those of some contacts, each of which takes the first 26. -/
lemma exists_ofCompactRun? {n : Nat} (h : bs.length = 26 * n) :
    ∃ cs, ofCompactRun? n bs = some cs ∧ compactAll cs = bs ∧ received cs = cs := by
  induction n generalizing bs with
  | zero =>
    obtain rfl := List.length_eq_zero_iff.1 h
    exact ⟨[], rfl, rfl, rfl⟩
  | succ n ih =>
    have hfirst : (bs.take 26).length = 26 := by rw [List.length_take]; omega
    have hrest : (bs.drop 26).length = 26 * n := by rw [List.length_drop]; omega
    obtain ⟨c, hread, hcompact, hv4, hbare⟩ := exists_ofCompact? hfirst
    obtain ⟨cs, hrun, hall, hreceived⟩ := ih hrest
    refine ⟨c :: cs, ?_, ?_, ?_⟩
    · rw [ofCompactRun?, hread, hrun]
      rfl
    · rw [compactAll_cons, hcompact, hall, List.take_append_drop]
    · rw [received_cons_of_isV4 hv4, hbare, hreceived]

lemma exists_ofCompactAll (h : 26 ∣ bs.length) :
    ∃ cs, ofCompactAll bs = .ok cs ∧ compactAll cs = bs ∧ received cs = cs := by
  obtain ⟨cs, hrun, hall, hreceived⟩ := exists_ofCompactRun? (Nat.mul_div_cancel' h).symm
  refine ⟨cs, ?_, hall, hreceived⟩
  rw [ofCompactAll, if_pos (Nat.mod_eq_zero_of_dvd h), hrun]

lemma dvd_length_of_ofCompactAll (h : ofCompactAll bs = .ok cs) : 26 ∣ bs.length := by
  unfold ofCompactAll at h
  split_ifs at h with hlength
  exact Nat.dvd_of_mod_eq_zero hlength

lemma exists_ofCompactAll_iff : (∃ cs, ofCompactAll bs = .ok cs) ↔ 26 ∣ bs.length := by
  constructor
  · rintro ⟨cs, h⟩
    exact dvd_length_of_ofCompactAll h
  · intro h
    obtain ⟨cs, hread, -, -⟩ := exists_ofCompactAll h
    exact ⟨cs, hread⟩

/-- Octets are read as the contacts that arrive as they are and are written as these octets. -/
lemma ofCompactAll_eq_ok_iff : ofCompactAll bs = .ok cs ↔ compactAll cs = bs ∧ received cs = cs := by
  constructor
  · intro h
    obtain ⟨ds, hread, hall, hreceived⟩ := exists_ofCompactAll (dvd_length_of_ofCompactAll h)
    obtain rfl := Except.ok.inj (h.symm.trans hread)
    exact ⟨hall, hreceived⟩
  · rintro ⟨rfl, hreceived⟩
    rw [ofCompactAll_compactAll, hreceived]

lemma bijOn_compactAll : Set.BijOn compactAll {cs | received cs = cs} {bs | 26 ∣ bs.length} := by
  refine ⟨?_, ?_, ?_⟩
  · intro cs _
    exact ⟨(received cs).length, length_compactAll cs⟩
  · intro cs hcs ds hds h
    have hread := ofCompactAll_compactAll cs
    rw [h, ofCompactAll_compactAll, hcs, hds] at hread
    exact (Except.ok.inj hread).symm
  · intro bs h
    obtain ⟨cs, -, hall, hreceived⟩ := exists_ofCompactAll h
    exact ⟨cs, hreceived, hall⟩

/-- Octets can be read exactly if their number is a multiple of 26, and what is read is written as the same
octets. What is written of some contacts is read as those of the older family, in their order, with
identifier, IP and port alone. For each of these the identifier is written, then the octets of the IP, then
the port as two octets, the high one first. So the lists of such contacts and the octets that can be read
correspond one to one. -/
theorem compact_contacts_biject :
    (∀ bs : Bytes, ((∃ cs, ofCompactAll bs = .ok cs) ↔ 26 ∣ bs.length) ∧
      ∀ cs, ofCompactAll bs = .ok cs → compactAll cs = bs) ∧
    (∀ cs : List Contact, ofCompactAll (compactAll cs) =
      .ok ((cs.filter fun c => c.address.ip.isV4).map fun c => ⟨c.id, c.address, none, 0⟩)) ∧
    (∀ cs : List Contact, compactAll cs = (cs.filter fun c => c.address.ip.isV4).flatMap fun c =>
      c.id.bytes ++ c.address.ip.octets ++ Bytes.ofNat 2 c.address.port.toNat) ∧
    Set.BijOn compactAll {cs | ∀ c ∈ cs, c.address.ip.isV4 ∧ c.token = none ∧ c.announced = 0}
      {bs | 26 ∣ bs.length} := by
  refine ⟨fun bs => ⟨exists_ofCompactAll_iff, fun cs h => (ofCompactAll_eq_ok_iff.1 h).1⟩,
    ofCompactAll_compactAll, compactAll_eq_flatMap, ?_⟩
  simpa only [received_eq_self_iff, bare_eq_self_iff] using bijOn_compactAll

/-- The octets from 0 to 51. -/
def counting : Bytes :=
  (List.range 52).map UInt8.ofNat

/-- The identifier of twenty octets that count from some number. -/
def countingId (start : Nat) : Id :=
  ⟨(List.range' start 20).map UInt8.ofNat, by simp⟩

/-- The contacts that these octets are, 26 for each. -/
def counted : List Contact :=
  [⟨countingId 0, ⟨.v4 20 21 22 23, 24 * 256 + 25⟩, none, 0⟩,
    ⟨countingId 26, ⟨.v4 46 47 48 49, 50 * 256 + 51⟩, none, 0⟩]

theorem compact_contacts_biject_counting :
    ofCompactAll counting = .ok counted ∧ compactAll counted = counting := by
  have hread : ofCompactAll counting = .ok counted := by rfl
  exact ⟨hread, (compact_contacts_biject.1 counting).2 counted hread⟩

end Kademlia.Contact
