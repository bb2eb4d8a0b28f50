import Kademlia.Proofs.Bencode.Length
import Kademlia.Proofs.Bencode.Weight
import Kademlia.Wire.Payload

/-!
# How long error texts get

What a node says about arguments that it cannot read names the kind of a value, an integer or a
number of octets, and never the octets themselves. So it stays short whatever the arguments are.
-/

namespace Kademlia

open Bencode

/-! ### Numbers in texts -/

lemma Utf8.length_encode (s : String) : (encode s).length = s.utf8ByteSize := by
  simp [encode]

/-- A digit takes one octet. -/
lemma utf8Len_of_digits {cs : List Char} (h : ∀ c ∈ cs, c.isDigit = true) :
    String.utf8Len cs = cs.length := by
  induction cs with
  | nil => rfl
  | cons c cs ih =>
    have hc := (Char.isDigit_iff_toNat.1 (h c List.mem_cons_self)).2
    have hone : c.utf8Size = 1 := by
      rw [Char.utf8Size_eq_one_iff]
      simp only [UInt32.le_iff_toNat_le]
      exact hc.trans (by decide)
    rw [String.utf8Len_cons, hone, ih fun d hd => h d (List.mem_cons_of_mem c hd),
      List.length_cons]

lemma size_toString (n : Nat) : (toString n).utf8ByteSize = (Decimal.ofNat n).length := by
  show (String.ofList (Nat.toDigits 10 n)).utf8ByteSize = _
  rw [String.utf8ByteSize_ofList, utf8Len_of_digits, Decimal.ofNat, List.length_map]
  exact fun c hc => Nat.isDigit_of_mem_toDigits (by decide) (by decide) hc

lemma size_toString_le {n k : Nat} (hk : 0 < k) (h : n < 10 ^ k) :
    (toString n).utf8ByteSize ≤ k :=
  (size_toString n).trans_le (Decimal.length_ofNat_le hk h)

lemma size_toString_int (i : Int) : (toString i).utf8ByteSize = (Decimal.ofInt i).length := by
  cases i with
  | ofNat n => exact size_toString n
  | negSucc n =>
    have hsign : "-".utf8ByteSize = 1 := rfl
    show ("-" ++ toString (n + 1)).utf8ByteSize = (Decimal.minus :: Decimal.ofNat (n + 1)).length
    rw [String.utf8ByteSize_append, size_toString, hsign, List.length_cons, Nat.add_comm]

/-! ### Texts about values -/

namespace Bencode

lemma Found.size_message (f : Found) : f.message.utf8ByteSize ≤ 30 := by
  cases f with
  | integer n =>
    have hn := (size_toString_int n.toInt).trans_le (Decimal.length_ofInt_int64 n)
    have hopen : "integer `".utf8ByteSize = 9 := rfl
    have hclose : "`".utf8ByteSize = 1 := rfl
    show ("integer `" ++ toString n.toInt ++ "`").utf8ByteSize ≤ 30
    simp only [String.utf8ByteSize_append]
    omega
  | byteArray => decide
  | sequence => decide
  | map => decide

lemma Wanted.size_message (w : Wanted) : w.message.utf8ByteSize ≤ 12 := by
  cases w <;> decide

lemma Mismatch.size_message (m : Mismatch) : m.message.utf8ByteSize ≤ 72 := by
  have hopen : " (expected: `".utf8ByteSize = 13 := rfl
  have hclose : "`)".utf8ByteSize = 2 := rfl
  cases m with
  | kind found wanted =>
    have hfound := found.size_message
    have hwanted := wanted.size_message
    have hstart : "Invalid Type: ".utf8ByteSize = 14 := rfl
    show ("Invalid Type: " ++ found.message ++ " (expected: `" ++ wanted.message ++
      "`)").utf8ByteSize ≤ 72
    simp only [String.utf8ByteSize_append]
    omega
  | range found wanted =>
    have hfound := found.size_message
    have hwanted := wanted.size_message
    have hstart : "Invalid Value: ".utf8ByteSize = 15 := rfl
    show ("Invalid Value: " ++ found.message ++ " (expected: `" ++ wanted.message ++
      "`)").utf8ByteSize ≤ 72
    simp only [String.utf8ByteSize_append]
    omega

end Bencode

/-! ### Texts about arguments -/

namespace Wire

/-- Is nothing long in an error? The field that is missing has a short name, and numbers have at most
twenty digits. -/
def PayloadError.Modest : PayloadError → Prop
  | mismatch _ => True
  | missing field => field.utf8ByteSize ≤ 6
  | id e => e.got < 10 ^ 20
  | contacts _ => True
  | countTooLarge n => n < 10 ^ 20

lemma PayloadError.Modest.size_message {e : PayloadError} (h : e.Modest) :
    e.message.utf8ByteSize ≤ 102 := by
  have hstart : "Failed to parse packet bytes: ".utf8ByteSize = 30 := rfl
  cases e with
  | mismatch m =>
    have hm := m.size_message
    show ("Failed to parse packet bytes: " ++ m.message).utf8ByteSize ≤ 102
    rw [String.utf8ByteSize_append]
    omega
  | missing field =>
    have hfield : field.utf8ByteSize ≤ 6 := h
    have hopen : "Failed to parse packet bytes: Missing Field: `".utf8ByteSize = 46 := rfl
    have hclose : "`".utf8ByteSize = 1 := rfl
    show ("Failed to parse packet bytes: Missing Field: `" ++ field ++ "`").utf8ByteSize ≤ 102
    simp only [String.utf8ByteSize_append]
    omega
  | id e =>
    have hgot := size_toString_le (by decide) (show e.got < 10 ^ 20 from h)
    have hopen : "Invalid Id size, expected 20, got ".utf8ByteSize = 34 := rfl
    show ("Failed to parse packet bytes: " ++
      ("Invalid Id size, expected 20, got " ++ toString e.got)).utf8ByteSize ≤ 102
    simp only [String.utf8ByteSize_append]
    omega
  | contacts e =>
    cases e
    decide
  | countTooLarge n =>
    have hn := size_toString_le (by decide) (show n < 10 ^ 20 from h)
    have hopen : "Failed to parse packet bytes: Can't parse `".utf8ByteSize = 43 := rfl
    have hclose : "` as integer".utf8ByteSize = 12 := rfl
    show ("Failed to parse packet bytes: Can't parse `" ++ toString n ++
      "` as integer").utf8ByteSize ≤ 102
    simp only [String.utf8ByteSize_append]
    omega

/-! ### Reading arguments -/

/-- Is nothing long in the error, if there is one? -/
def Sparing {α : Type} (x : Except PayloadError α) : Prop :=
  ∀ e, x = .error e → e.Modest

section Sparing

variable {α β : Type}

lemma sparing_ok (a : α) : Sparing (.ok a) :=
  nofun

lemma sparing_error {e : PayloadError} (h : e.Modest) : Sparing (.error e : Except _ α) := by
  rintro _ ⟨⟩
  exact h

lemma Sparing.bind {x : Except PayloadError α} {f : α → Except PayloadError β} (hx : Sparing x)
    (hf : ∀ a, x = .ok a → Sparing (f a)) : Sparing (x >>= f) := by
  cases x with
  | ok a => exact hf a rfl
  | error e => exact sparing_error (hx e rfl)

/-- Reading a list item by item fails of one of the items. -/
lemma sparing_mapM {f : α → Except PayloadError β} {xs : List α} (h : ∀ x ∈ xs, Sparing (f x)) :
    Sparing (xs.mapM f) := by
  induction xs with
  | nil => exact sparing_ok []
  | cons x xs ih =>
    rw [List.mapM_cons]
    apply (h x List.mem_cons_self).bind
    intro y _
    apply (ih fun z hz => h z (List.mem_cons_of_mem x hz)).bind
    intro ys _
    exact sparing_ok (y :: ys)

lemma sparing_forM {f : α → Except PayloadError Unit} {xs : List α}
    (h : ∀ x ∈ xs, Sparing (f x)) : Sparing (xs.forM f) := by
  induction xs with
  | nil => exact sparing_ok ()
  | cons x xs ih =>
    apply (h x List.mem_cons_self).bind
    intro _ _
    exact ih fun z hz => h z (List.mem_cons_of_mem x hz)

end Sparing

/-- Reading a list item by item gives as many items. -/
lemma length_of_mapM_ok {ε α β : Type} {f : α → Except ε β} {xs : List α} {ys : List β}
    (h : xs.mapM f = .ok ys) : ys.length = xs.length := by
  induction xs generalizing ys with
  | nil =>
    obtain rfl := Except.ok.inj h
    rfl
  | cons x xs ih =>
    rw [List.mapM_cons] at h
    obtain ⟨y, -, h⟩ := bind_eq_ok.1 h
    obtain ⟨ys', hys, h⟩ := bind_eq_ok.1 h
    obtain rfl := Except.ok.inj h
    rw [List.length_cons, List.length_cons, ih hys]

lemma sparing_readOctet (v : Value) : Sparing (readOctet v) := by
  unfold readOctet
  split
  · split_ifs
    · exact sparing_ok _
    · exact sparing_error trivial
  · exact sparing_error trivial

lemma sparing_readBytes (v : Value) : Sparing (readBytes v) := by
  unfold readBytes
  split
  · exact sparing_ok _
  · exact sparing_mapM fun w _ => sparing_readOctet w
  · exact sparing_error trivial

/-- No more octets are read than there are. -/
lemma length_of_readBytes {v : Value} {bs : Bytes} (h : readBytes v = .ok bs) :
    bs.length ≤ v.weight := by
  unfold readBytes at h
  split at h
  · obtain rfl := Except.ok.inj h
    simp [Value.weight]
  · next items =>
    rw [length_of_mapM_ok h, Value.weight]
    exact (length_le_itemsWeight items).trans (Nat.le_succ _)
  · cases h

lemma sparing_readId {v : Value} (hv : v.weight < 10 ^ 20) : Sparing (readId v) := by
  apply (sparing_readBytes v).bind
  intro bs hbs
  have hlength := length_of_readBytes hbs
  unfold Id.ofBytes
  split_ifs
  · exact sparing_ok _
  · apply sparing_error
    show bs.length < 10 ^ 20
    omega

lemma sparing_readCount (v : Value) : Sparing (readCount v) := by
  unfold readCount
  split
  · split_ifs
    · exact sparing_ok _
    · exact sparing_error trivial
  · exact sparing_error trivial

/-! ### Fields -/

/-- Has a field a short name, and is nothing long in the error when a value of some weight is read? -/
structure Field.Modest {α : Type} (f : Field α) (room : Nat) : Prop where
  name : f.name.utf8ByteSize ≤ 6
  read : ∀ v, v.weight ≤ room → Sparing (f.read v)

section Fields

variable {room : Nat} (hroom : room < 10 ^ 20)

include hroom

lemma modest_id : Field.id.Modest room :=
  ⟨by decide, fun _ hv => sparing_readId (hv.trans_lt hroom)⟩

lemma modest_target : Field.target.Modest room :=
  ⟨by decide, fun _ hv => sparing_readId (hv.trans_lt hroom)⟩

lemma modest_valueKey : Field.valueKey.Modest room :=
  ⟨by decide, fun _ hv => sparing_readId (hv.trans_lt hroom)⟩

omit hroom

lemma modest_value : Field.value.Modest room :=
  ⟨by decide, fun v _ => sparing_readBytes v⟩

lemma modest_token : Field.token.Modest room :=
  ⟨by decide, fun v _ => sparing_readBytes v⟩

lemma modest_num : Field.num.Modest room :=
  ⟨by decide, fun v _ => sparing_readCount v⟩

end Fields

section Reading

variable {α : Type} {f : Field α} {room : Nat} {d : Dict}

lemma Field.Modest.require (hf : f.Modest room) (hd : d.weight ≤ room) : Sparing (f.require d) := by
  unfold Field.require
  split
  · next v hv => exact hf.read v ((Dict.weight_get? hv).trans hd)
  · exact sparing_error hf.name

lemma Field.Modest.getD (hf : f.Modest room) (hd : d.weight ≤ room) (default : α) :
    Sparing (f.getD d default) := by
  unfold Field.getD
  split
  · next v hv => exact hf.read v ((Dict.weight_get? hv).trans hd)
  · exact sparing_ok default

/-- Is nothing long in the error of a check? -/
def ModestCheck (room : Nat) (c : Bytes × (Value → Except PayloadError Unit)) : Prop :=
  ∀ v, v.weight ≤ room → Sparing (c.2 v)

lemma Field.Modest.check (hf : f.Modest room) : ModestCheck room f.check := by
  intro v hv
  show Sparing (discard (f.read v))
  cases hread : f.read v with
  | ok a => exact sparing_ok ()
  | error e => exact sparing_error (hf.read v hv e hread)

/-- Checking the entries of a dictionary fails of one of them. -/
lemma sparing_checkEntries {checks : List (Bytes × (Value → Except PayloadError Unit))}
    (hchecks : ∀ c ∈ checks, ModestCheck room c) (hd : d.weight ≤ room) :
    Sparing (checkEntries d checks) := by
  apply sparing_forM
  rintro ⟨k, v⟩ hx
  dsimp only
  split_ifs
  · exact sparing_error trivial
  · split
    · next c hc =>
      have hv : v.weight ≤ d.weight := Dict.weight_of_mem hx
      exact hchecks c (List.mem_of_find?_eq_some hc) v (hv.trans hd)
    · exact sparing_ok ()

/-- Checks of fields, one after another. -/
lemma modestCheck_cons {β : Type} {g : Field β} (hg : g.Modest room)
    {checks : List (Bytes × (Value → Except PayloadError Unit))}
    (hchecks : ∀ c ∈ checks, ModestCheck room c) : ∀ c ∈ g.check :: checks, ModestCheck room c :=
  List.forall_mem_cons.2 ⟨hg.check, hchecks⟩

lemma modestCheck_nil : ∀ c ∈ ([] : List (Bytes × (Value → Except PayloadError Unit))),
    ModestCheck room c := by
  simp

end Reading

section Arguments

variable {d : Dict} (hd : d.weight < 10 ^ 20)

include hd

lemma sparing_findNode : Sparing (Payload.ofDict d : Except _ FindNode.Arguments) := by
  have hid := modest_id hd
  have htarget := modest_target hd
  apply (sparing_checkEntries (modestCheck_cons hid (modestCheck_cons htarget modestCheck_nil))
    le_rfl).bind
  intro _ _
  apply (hid.require le_rfl).bind
  intro id _
  apply (htarget.require le_rfl).bind
  intro target _
  exact sparing_ok _

lemma sparing_findValue : Sparing (Payload.ofDict d : Except _ FindValue.Arguments) := by
  have hid := modest_id hd
  have hkey := modest_valueKey hd
  apply (sparing_checkEntries (modestCheck_cons hid (modestCheck_cons hkey modestCheck_nil))
    le_rfl).bind
  intro _ _
  apply (hid.require le_rfl).bind
  intro id _
  apply (hkey.require le_rfl).bind
  intro key _
  exact sparing_ok _

lemma sparing_getValue : Sparing (Payload.ofDict d : Except _ GetValue.Arguments) := by
  have hid := modest_id hd
  have hkey := modest_valueKey hd
  apply (sparing_checkEntries (modestCheck_cons hid (modestCheck_cons hkey
    (modestCheck_cons modest_num modestCheck_nil))) le_rfl).bind
  intro _ _
  apply (hid.require le_rfl).bind
  intro id _
  apply (hkey.require le_rfl).bind
  intro key _
  apply (modest_num.getD le_rfl 0).bind
  intro num _
  exact sparing_ok _

lemma sparing_storeValue : Sparing (Payload.ofDict d : Except _ StoreValue.Arguments) := by
  have hid := modest_id hd
  have hkey := modest_valueKey hd
  apply (sparing_checkEntries (modestCheck_cons hid (modestCheck_cons hkey
    (modestCheck_cons modest_value (modestCheck_cons modest_token modestCheck_nil)))) le_rfl).bind
  intro _ _
  apply (hid.require le_rfl).bind
  intro id _
  apply (hkey.require le_rfl).bind
  intro key _
  apply (modest_value.require le_rfl).bind
  intro value _
  apply (modest_token.require le_rfl).bind
  intro token _
  exact sparing_ok _

omit hd

/-- The value to store was part of the request. -/
lemma length_value_le {a : StoreValue.Arguments} (h : Payload.ofDict d = .ok a) :
    a.value.length ≤ d.weight := by
  simp only [Payload.ofDict, bind_eq_ok] at h
  obtain ⟨_, -, id, -, key, -, value, hvalue, token, -, h⟩ := h
  obtain rfl := Except.ok.inj h
  unfold Field.require at hvalue
  split at hvalue
  · next v hv => exact (length_of_readBytes hvalue).trans (Dict.weight_get? hv)
  · cases hvalue

end Arguments

end Wire

end Kademlia
