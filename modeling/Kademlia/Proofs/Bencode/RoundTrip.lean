import Kademlia.Bencode.Decoder
import Kademlia.Proofs.Text.Decimal

/-!
# Reading back what was written

A value is read back from its written form whatever follows it. Octets after those that were read
make no difference, so that no written form starts with another one's.
-/

namespace Kademlia

lemma bind_eq_ok {ε α β : Type} {x : Except ε α} {f : α → Except ε β} {b : β} :
    x >>= f = .ok b ↔ ∃ a, x = .ok a ∧ f a = .ok b := by
  cases x <;> simp [bind, Except.bind]

lemma map_eq_ok {ε α β : Type} {f : α → β} {x : Except ε α} {b : β} :
    f <$> x = .ok b ↔ ∃ a, x = .ok a ∧ f a = b := by
  cases x <;> simp [Functor.map, Except.map]

lemma mapError_eq_ok {ε ε' α : Type} {x : Except ε α} {f : ε → ε'} {a : α} :
    x.mapError f = .ok a ↔ x = .ok a := by
  cases x <;> simp [Except.mapError]

namespace Bencode

/-! ### Numbers and byte strings -/

lemma takeThrough_append {stop : UInt8} {text : Bytes} (h : ∀ b ∈ text, b ≠ stop) (rest : Bytes) :
    takeThrough stop (text ++ stop :: rest) = some (text, rest) := by
  induction text with
  | nil => simp [takeThrough]
  | cons b text ih =>
    have hb : b ≠ stop := h b List.mem_cons_self
    rw [List.cons_append, takeThrough, if_neg hb, ih fun c hc => h c (List.mem_cons_of_mem b hc)]
    rfl

lemma integer_ofInt (n : Int64) (rest : Bytes) :
    integer (Decimal.ofInt n.toInt ++ Mark.close :: rest) = .ok (n, rest) := by
  have htext : ∀ b ∈ Decimal.ofInt n.toInt, b ≠ Mark.close := fun b hb =>
    Decimal.ne_of_mem_ofInt hb (by decide) (by decide)
  rw [integer, takeThrough_append htext]
  dsimp only
  rw [Decimal.toInt64?_ofInt]

lemma byteString_encodeBytes {bs : Bytes} (h : bs.length < UInt64.size) (rest : Bytes) :
    byteString (encodeBytes bs ++ rest) = .ok (bs, rest) := by
  have htext : ∀ b ∈ Decimal.ofNat bs.length, b ≠ Mark.colon := fun b hb =>
    Decimal.isDigit_ne (Decimal.isDigit_of_mem_ofNat hb) (by decide)
  have hreaches : reaches bs.length (bs ++ rest) = true := by simp [reaches_iff]
  rw [byteString, encodeBytes, List.append_assoc, List.cons_append, takeThrough_append htext]
  dsimp only
  rw [Decimal.toNatBelow?_ofNat h]
  dsimp only
  rw [if_pos hreaches, List.take_left, List.drop_left]

/-- The written form of a byte string starts with a digit. -/
lemma exists_digit (bs : Bytes) : ∃ b more, encodeBytes bs = b :: more ∧
    Decimal.isDigit b = true := by
  unfold encodeBytes
  cases hdigits : Decimal.ofNat bs.length with
  | nil => exact absurd hdigits (Decimal.ofNat_ne_nil _)
  | cons b more =>
    exact ⟨b, more ++ Mark.colon :: bs, rfl,
      Decimal.isDigit_of_mem_ofNat (hdigits ▸ List.mem_cons_self)⟩

lemma mark_ne {b : UInt8} (h : Decimal.isDigit b = true) :
    b ≠ Mark.integer ∧ b ≠ Mark.list ∧ b ≠ Mark.dict ∧ b ≠ Mark.close :=
  ⟨Decimal.isDigit_ne h (by decide), Decimal.isDigit_ne h (by decide),
    Decimal.isDigit_ne h (by decide), Decimal.isDigit_ne h (by decide)⟩

lemma key_encodeBytes {bs : Bytes} (h : bs.length < UInt64.size) (rest : Bytes) :
    key (encodeBytes bs ++ rest) = .ok (bs, rest) := by
  have hread := byteString_encodeBytes h rest
  obtain ⟨b, more, heq, hdigit⟩ := exists_digit bs
  obtain ⟨hinteger, hlist, hdict, hclose⟩ := mark_ne hdigit
  rw [heq, List.cons_append] at hread ⊢
  rw [key, if_neg hinteger, if_neg hlist, if_neg hdict, if_neg hclose, if_pos hdigit, hread]

/-! ### Values -/

/-- A written form never starts like the end of a list. -/
lemma exists_head (v : Value) : ∃ b bs, v.encode = b :: bs ∧ b ≠ Mark.close := by
  cases v with
  | int n => exact ⟨_, _, Value.encode_int n, by decide⟩
  | bytes bs =>
    obtain ⟨b, more, heq, hdigit⟩ := exists_digit bs
    exact ⟨b, more, (Value.encode_bytes bs).trans heq, (mark_ne hdigit).2.2.2⟩
  | list items => exact ⟨_, _, Value.encode_list items, by decide⟩
  | dict entries => exact ⟨_, _, Value.encode_dict entries, by decide⟩

lemma length_encodeBytes (bs : Bytes) : bs.length < (encodeBytes bs).length := by
  simp only [encodeBytes, List.length_append, List.length_cons]
  omega

mutual

/-- With two steps for each octet, a value is read back from its written form. -/
theorem decodeValue_encode : (v : Value) → (rest : Bytes) → v.encode.length < UInt64.size →
    (fuel : Nat) → 2 * (v.encode ++ rest).length ≤ fuel →
    decodeValue fuel (v.encode ++ rest) = .ok (v, rest)
  | .int n, rest, hsize, fuel, hfuel => by
    rw [Value.encode_int] at hfuel ⊢
    simp only [List.cons_append, List.append_assoc, List.length_cons] at hfuel ⊢
    obtain ⟨fuel, rfl⟩ := Nat.exists_eq_succ_of_ne_zero (n := fuel) (by omega)
    rw [decodeValue, if_pos rfl, List.nil_append, integer_ofInt]
    rfl
  | .bytes bs, rest, hsize, fuel, hfuel => by
    rw [Value.encode_bytes] at hsize hfuel ⊢
    have hread := byteString_encodeBytes ((length_encodeBytes bs).trans hsize) rest
    obtain ⟨b, more, heq, hdigit⟩ := exists_digit bs
    obtain ⟨hinteger, hlist, hdict, hclose⟩ := mark_ne hdigit
    rw [heq] at hread hfuel ⊢
    simp only [List.cons_append, List.length_cons] at hread hfuel ⊢
    obtain ⟨fuel, rfl⟩ := Nat.exists_eq_succ_of_ne_zero (n := fuel) (by omega)
    rw [decodeValue, if_neg hinteger, if_neg hlist, if_neg hdict, if_neg hclose, if_pos hdigit,
      hread]
    rfl
  | .list items, rest, hsize, fuel, hfuel => by
    rw [Value.encode_list] at hsize hfuel ⊢
    simp only [List.cons_append, List.append_assoc, List.length_cons, List.length_append,
      List.nil_append, List.length_nil] at hsize hfuel ⊢
    obtain ⟨fuel, rfl⟩ := Nat.exists_eq_succ_of_ne_zero (n := fuel) (by omega)
    have hitems := decodeItems_encode items rest (by omega) fuel (by
      simp only [List.length_append, List.length_cons]
      omega)
    rw [decodeValue, if_neg (by decide), if_pos rfl, hitems]
    rfl
  | .dict entries, rest, hsize, fuel, hfuel => by
    rw [Value.encode_dict] at hsize hfuel ⊢
    simp only [List.cons_append, List.append_assoc, List.length_cons, List.length_append,
      List.nil_append, List.length_nil] at hsize hfuel ⊢
    obtain ⟨fuel, rfl⟩ := Nat.exists_eq_succ_of_ne_zero (n := fuel) (by omega)
    have hentries := decodeEntries_encode entries rest (by omega) fuel (by
      simp only [List.length_append, List.length_cons]
      omega)
    rw [decodeValue, if_neg (by decide), if_neg (by decide), if_pos rfl, hentries]
    rfl

theorem decodeItems_encode : (vs : List Value) → (rest : Bytes) →
    (vs.flatMap Value.encode).length < UInt64.size →
    (fuel : Nat) → 2 * (vs.flatMap Value.encode ++ Mark.close :: rest).length + 1 ≤ fuel →
    decodeItems fuel (vs.flatMap Value.encode ++ Mark.close :: rest) = .ok (vs, rest)
  | [], rest, hsize, fuel, hfuel => by
    obtain ⟨fuel, rfl⟩ := Nat.exists_eq_succ_of_ne_zero (n := fuel) (by omega)
    rw [List.flatMap_nil, List.nil_append, decodeItems, if_pos rfl]
  | v :: vs, rest, hsize, fuel, hfuel => by
    rw [List.flatMap_cons, List.length_append] at hsize
    rw [List.flatMap_cons, List.append_assoc] at hfuel ⊢
    obtain ⟨fuel, rfl⟩ := Nat.exists_eq_succ_of_ne_zero (n := fuel) (by omega)
    have hv := decodeValue_encode v (vs.flatMap Value.encode ++ Mark.close :: rest) (by omega) fuel
      (by omega)
    obtain ⟨b, bs, heq, hclose⟩ := exists_head v
    have hvs := decodeItems_encode vs rest (by omega) fuel (by
      rw [List.length_append, heq, List.length_cons] at hfuel
      omega)
    rw [heq, List.cons_append] at hv ⊢
    rw [decodeItems, if_neg hclose, hv]
    simp only [bind, Except.bind]
    rw [hvs]

theorem decodeEntries_encode : (es : List Entry) → (rest : Bytes) →
    (es.flatMap encodeEntry).length < UInt64.size →
    (fuel : Nat) → 2 * (es.flatMap encodeEntry ++ Mark.close :: rest).length + 1 ≤ fuel →
    decodeEntries fuel (es.flatMap encodeEntry ++ Mark.close :: rest) = .ok (es, rest)
  | [], rest, hsize, fuel, hfuel => by
    obtain ⟨fuel, rfl⟩ := Nat.exists_eq_succ_of_ne_zero (n := fuel) (by omega)
    rw [List.flatMap_nil, List.nil_append, decodeEntries, if_pos rfl]
  | (k, v) :: es, rest, hsize, fuel, hfuel => by
    have hk := length_encodeBytes k
    rw [List.flatMap_cons, encodeEntry, List.length_append, List.length_append] at hsize
    rw [List.flatMap_cons, encodeEntry, List.append_assoc, List.append_assoc] at hfuel ⊢
    dsimp only at hsize hfuel ⊢
    obtain ⟨fuel, rfl⟩ := Nat.exists_eq_succ_of_ne_zero (n := fuel) (by omega)
    rw [List.length_append] at hfuel
    have hkey := key_encodeBytes (hk.trans (by omega))
      (v.encode ++ (es.flatMap encodeEntry ++ Mark.close :: rest))
    have hv := decodeValue_encode v (es.flatMap encodeEntry ++ Mark.close :: rest) (by omega) fuel
      (by omega)
    have hes := decodeEntries_encode es rest (by omega) fuel (by
      rw [List.length_append] at hfuel
      omega)
    obtain ⟨b, bs, heq, hdigit⟩ := exists_digit k
    rw [heq, List.cons_append] at hkey ⊢
    rw [decodeEntries, if_neg (mark_ne hdigit).2.2.2, hkey]
    simp only [bind, Except.bind]
    rw [hv]
    dsimp only
    rw [hes]

end

/-! ### What follows makes no difference -/

section Extend

variable {bs rest : Bytes} (more : Bytes)

lemma takeThrough_extend {stop : UInt8} {text : Bytes}
    (h : takeThrough stop bs = some (text, rest)) :
    takeThrough stop (bs ++ more) = some (text, rest ++ more) := by
  induction bs generalizing text with
  | nil => simp [takeThrough] at h
  | cons b bs ih =>
    rw [List.cons_append, takeThrough]
    rw [takeThrough] at h
    split at h
    · next hb =>
      obtain ⟨rfl, rfl⟩ := Prod.mk.inj (Option.some.inj h)
      rw [if_pos hb]
    · next hb =>
      obtain ⟨⟨text', rest'⟩, hread, heq⟩ := Option.map_eq_some_iff.1 h
      obtain ⟨rfl, rfl⟩ := Prod.mk.inj heq
      rw [if_neg hb, ih hread]
      rfl

lemma integer_extend {n : Int64} (h : integer bs = .ok (n, rest)) :
    integer (bs ++ more) = .ok (n, rest ++ more) := by
  unfold integer at h ⊢
  cases hread : takeThrough Mark.close bs with
  | none => simp [hread] at h
  | some p =>
    obtain ⟨text, rest'⟩ := p
    rw [takeThrough_extend more hread]
    rw [hread] at h
    dsimp only at h ⊢
    cases hvalue : Decimal.toInt64? text with
    | none => simp [hvalue] at h
    | some m =>
      rw [hvalue] at h
      obtain ⟨rfl, rfl⟩ := Prod.mk.inj (Except.ok.inj h)
      rfl

lemma byteString_extend {s : Bytes} (h : byteString bs = .ok (s, rest)) :
    byteString (bs ++ more) = .ok (s, rest ++ more) := by
  unfold byteString at h ⊢
  cases hread : takeThrough Mark.colon bs with
  | none => simp [hread] at h
  | some p =>
    obtain ⟨text, rest'⟩ := p
    rw [takeThrough_extend more hread]
    rw [hread] at h
    dsimp only at h ⊢
    cases hlength : Decimal.toNatBelow? UInt64.size text with
    | none => simp [hlength] at h
    | some n =>
      rw [hlength] at h
      dsimp only at h ⊢
      split_ifs at h with hreaches
      obtain ⟨rfl, rfl⟩ := Prod.mk.inj (Except.ok.inj h)
      have hle : n ≤ rest'.length := reaches_iff.1 hreaches
      have hreaches' : reaches n (rest' ++ more) = true :=
        reaches_iff.2 (hle.trans (by simp))
      rw [if_pos hreaches', List.take_append_of_le_length hle, List.drop_append_of_le_length hle]

lemma octets_extend {fuel fuel' : Nat} (hfuel : fuel ≤ fuel') {s : Bytes}
    (h : octets fuel bs = .ok (s, rest)) : octets fuel' (bs ++ more) = .ok (s, rest ++ more) := by
  induction fuel generalizing fuel' bs s with
  | zero => simp [octets] at h
  | succ fuel ih =>
    obtain ⟨fuel', rfl⟩ := Nat.exists_eq_succ_of_ne_zero (n := fuel') (by omega)
    cases bs with
    | nil => simp [octets] at h
    | cons b bs =>
      rw [List.cons_append, octets]
      rw [octets] at h
      split_ifs at h with hclose hinteger hlist hdict hdigit
      · obtain ⟨rfl, rfl⟩ := Prod.mk.inj (Except.ok.inj h)
        rw [if_pos hclose]
      · obtain ⟨⟨n, rest'⟩, hread, h⟩ := bind_eq_ok.1 h
        dsimp only at h
        split_ifs at h with hrange
        obtain ⟨⟨os, rest''⟩, hos, h⟩ := bind_eq_ok.1 h
        obtain ⟨rfl, rfl⟩ := Prod.mk.inj (Except.ok.inj h)
        rw [if_neg hclose, if_pos hinteger, integer_extend more hread]
        simp only [bind, Except.bind]
        rw [if_pos hrange, ih (by omega) hos]
      · obtain ⟨_, -, h⟩ := bind_eq_ok.1 h
        simp at h

lemma key_extend {k : Bytes} (h : key bs = .ok (k, rest)) :
    key (bs ++ more) = .ok (k, rest ++ more) := by
  cases bs with
  | nil => simp [key] at h
  | cons b bs =>
    rw [List.cons_append, key]
    rw [key] at h
    split_ifs at h with hinteger hlist hdict hclose hdigit
    · obtain ⟨_, -, h⟩ := bind_eq_ok.1 h
      simp at h
    · rw [if_neg hinteger, if_pos hlist]
      exact octets_extend more (by simp) h
    · rw [if_neg hinteger, if_neg hlist, if_neg hdict, if_neg hclose, if_pos hdigit]
      exact byteString_extend more h

/-- Neither further octets nor further steps change what is read. -/
lemma decode_extend (fuel : Nat) : ∀ {fuel' : Nat}, fuel ≤ fuel' → ∀ {bs rest : Bytes},
    (∀ {v}, decodeValue fuel bs = .ok (v, rest) →
      decodeValue fuel' (bs ++ more) = .ok (v, rest ++ more)) ∧
    (∀ {vs}, decodeItems fuel bs = .ok (vs, rest) →
      decodeItems fuel' (bs ++ more) = .ok (vs, rest ++ more)) ∧
    ∀ {es}, decodeEntries fuel bs = .ok (es, rest) →
      decodeEntries fuel' (bs ++ more) = .ok (es, rest ++ more) := by
  -- values, lists and dictionaries call each other, each with one step less
  induction fuel with
  | zero =>
    intro fuel' hfuel bs rest
    refine ⟨fun h => ?_, fun h => ?_, fun h => ?_⟩
    · simp [decodeValue] at h
    · simp [decodeItems] at h
    · simp [decodeEntries] at h
  | succ fuel ih =>
    intro fuel' hfuel bs rest
    obtain ⟨fuel', rfl⟩ := Nat.exists_eq_succ_of_ne_zero (n := fuel') (by omega)
    have hle : fuel ≤ fuel' := Nat.le_of_succ_le_succ hfuel
    cases bs with
    | nil =>
      refine ⟨fun h => ?_, fun h => ?_, fun h => ?_⟩
      · simp [decodeValue] at h
      · simp [decodeItems] at h
      · simp [decodeEntries] at h
    | cons b bs =>
      rw [List.cons_append, decodeValue, decodeValue, decodeItems, decodeItems, decodeEntries,
        decodeEntries]
      refine ⟨fun h => ?_, fun h => ?_, fun h => ?_⟩
      · split_ifs at h with hinteger hlist hdict hclose hdigit
        · obtain ⟨⟨n, rest'⟩, hread, h⟩ := bind_eq_ok.1 h
          obtain ⟨rfl, rfl⟩ := Prod.mk.inj (Except.ok.inj h)
          rw [if_pos hinteger, integer_extend more hread]
          rfl
        · obtain ⟨⟨vs, rest'⟩, hvs, h⟩ := bind_eq_ok.1 h
          obtain ⟨rfl, rfl⟩ := Prod.mk.inj (Except.ok.inj h)
          rw [if_neg hinteger, if_pos hlist, (ih hle).2.1 hvs]
          rfl
        · obtain ⟨⟨es, rest'⟩, hes, h⟩ := bind_eq_ok.1 h
          obtain ⟨rfl, rfl⟩ := Prod.mk.inj (Except.ok.inj h)
          rw [if_neg hinteger, if_neg hlist, if_pos hdict, (ih hle).2.2 hes]
          rfl
        · obtain ⟨⟨s, rest'⟩, hread, h⟩ := bind_eq_ok.1 h
          obtain ⟨rfl, rfl⟩ := Prod.mk.inj (Except.ok.inj h)
          rw [if_neg hinteger, if_neg hlist, if_neg hdict, if_neg hclose, if_pos hdigit,
            ← List.cons_append, byteString_extend more hread]
          rfl
      · split_ifs at h with hclose
        · obtain ⟨rfl, rfl⟩ := Prod.mk.inj (Except.ok.inj h)
          rw [if_pos hclose]
        · obtain ⟨⟨v, rest'⟩, hv, h⟩ := bind_eq_ok.1 h
          obtain ⟨⟨vs, rest''⟩, hvs, h⟩ := bind_eq_ok.1 h
          obtain ⟨rfl, rfl⟩ := Prod.mk.inj (Except.ok.inj h)
          rw [if_neg hclose, ← List.cons_append, (ih hle).1 hv]
          simp only [bind, Except.bind]
          rw [(ih hle).2.1 hvs]
      · split_ifs at h with hclose
        · obtain ⟨rfl, rfl⟩ := Prod.mk.inj (Except.ok.inj h)
          rw [if_pos hclose]
        · obtain ⟨⟨k, rest'⟩, hk, h⟩ := bind_eq_ok.1 h
          obtain ⟨⟨v, rest''⟩, hv, h⟩ := bind_eq_ok.1 h
          obtain ⟨⟨es, rest'''⟩, hes, h⟩ := bind_eq_ok.1 h
          obtain ⟨rfl, rfl⟩ := Prod.mk.inj (Except.ok.inj h)
          rw [if_neg hclose, ← List.cons_append, key_extend more hk]
          simp only [bind, Except.bind]
          rw [(ih hle).1 hv]
          dsimp only
          rw [(ih hle).2.2 hes]

end Extend

/-! ### Whole inputs -/

theorem decode_encode {v : Value} (h : v.encode.length < UInt64.size) (rest : Bytes) :
    decode (v.encode ++ rest) = .ok (v, rest) :=
  decodeValue_encode v rest h _ (by omega)

/-- The written form of a value is not complete before its end. -/
theorem decode_of_prefix {v : Value} (h : v.encode.length < UInt64.size) {p : Bytes}
    (hstart : p <+: v.encode) (hproper : p ≠ v.encode) : ∃ e, decode p = .error e := by
  obtain ⟨more, heq⟩ := hstart
  cases hp : decode p with
  | error e => exact ⟨e, rfl⟩
  | ok read =>
    obtain ⟨w, rest⟩ := read
    -- what is read from the prefix would be read from the whole, with octets left over
    have hlength : 2 * p.length + 2 ≤ 2 * (p ++ more).length + 2 := by simp
    have hread := (decode_extend more _ hlength).1 hp
    have hwhole := decode_encode h []
    rw [List.append_nil, ← heq, decode, hread] at hwhole
    obtain ⟨-, hrest⟩ := Prod.mk.inj (Except.ok.inj hwhole)
    have hmore : more = [] := (List.append_eq_nil_iff.1 hrest).2
    rw [hmore, List.append_nil] at heq
    exact absurd heq hproper

end Bencode

end Kademlia
