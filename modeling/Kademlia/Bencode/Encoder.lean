import Kademlia.Bencode.Value
import Kademlia.Text.Decimal
/-!
# Writing bencode

A value has one written form. Dictionaries are written in the order of their entries, so the form
of a canonical value is the canonical one.
-/

namespace Kademlia.Bencode

/-- The octets that open, separate and close values. -/
def Mark.integer : UInt8 := 105

/-- Opens a list. -/
def Mark.list : UInt8 := 108

/-- Opens a dictionary. -/
def Mark.dict : UInt8 := 100

/-- Closes an integer, a list or a dictionary. -/
def Mark.close : UInt8 := 101

/-- Ends the length of a byte string. -/
def Mark.colon : UInt8 := 58

/-- A byte string after its length. -/
def encodeBytes (bs : Bytes) : Bytes :=
  Decimal.ofNat bs.length ++ Mark.colon :: bs

mutual

/-- The written form of a value, before the octets that follow it. -/
def Value.writeBefore : Value → Bytes → Bytes
  | .int n, rest => Mark.integer :: Decimal.ofInt n.toInt ++ Mark.close :: rest
  | .bytes bs, rest => encodeBytes bs ++ rest
  | .list items, rest => Mark.list :: writeItems items (Mark.close :: rest)
  | .dict entries, rest => Mark.dict :: writeEntries entries (Mark.close :: rest)

/-- The written forms of the items of a list, before the octets that follow them. -/
def writeItems : List Value → Bytes → Bytes
  | [], rest => rest
  | v :: vs, rest => v.writeBefore (writeItems vs rest)

/-- The written forms of the entries of a dictionary, before the octets that follow them. -/
def writeEntries : List Entry → Bytes → Bytes
  | [], rest => rest
  | (k, v) :: es, rest => encodeBytes k ++ v.writeBefore (writeEntries es rest)

end

/-- The written form of a value. -/
def Value.encode (v : Value) : Bytes :=
  v.writeBefore []

/-- The written form of an entry of a dictionary. -/
def encodeEntry (e : Entry) : Bytes :=
  encodeBytes e.1 ++ e.2.encode

mutual

theorem Value.writeBefore_eq : (v : Value) → (rest : Bytes) → v.writeBefore rest = v.encode ++ rest
  | .int _, _ | .bytes _, _ => by simp [Value.encode, Value.writeBefore]
  | .list items, rest => by
    simp only [Value.encode, Value.writeBefore, List.cons_append]
    rw [writeItems_eq items (Mark.close :: rest), writeItems_eq items [Mark.close], List.append_assoc]
    rfl
  | .dict entries, rest => by
    simp only [Value.encode, Value.writeBefore, List.cons_append]
    rw [writeEntries_eq entries (Mark.close :: rest), writeEntries_eq entries [Mark.close],
      List.append_assoc]
    rfl

theorem writeItems_eq : (vs : List Value) → (rest : Bytes) →
    writeItems vs rest = vs.flatMap Value.encode ++ rest
  | [], _ => rfl
  | v :: vs, rest => by
    rw [writeItems, v.writeBefore_eq, writeItems_eq vs rest, List.flatMap_cons, List.append_assoc]

theorem writeEntries_eq : (es : List Entry) → (rest : Bytes) →
    writeEntries es rest = es.flatMap encodeEntry ++ rest
  | [], _ => rfl
  | (k, v) :: es, rest => by
    rw [writeEntries, v.writeBefore_eq, writeEntries_eq es rest, List.flatMap_cons, encodeEntry]
    simp only [List.append_assoc]

end

theorem Value.encode_int (n : Int64) :
    (Value.int n).encode = Mark.integer :: Decimal.ofInt n.toInt ++ [Mark.close] := by
  simp [Value.encode, Value.writeBefore]

theorem Value.encode_bytes (bs : Bytes) : (Value.bytes bs).encode = encodeBytes bs := by
  simp [Value.encode, Value.writeBefore]

theorem Value.encode_list (items : List Value) :
    (Value.list items).encode = Mark.list :: items.flatMap Value.encode ++ [Mark.close] := by
  simp [Value.encode, Value.writeBefore, writeItems_eq]

theorem Value.encode_dict (entries : List Entry) :
    (Value.dict entries).encode = Mark.dict :: entries.flatMap encodeEntry ++ [Mark.close] := by
  simp [Value.encode, Value.writeBefore, writeEntries_eq]

end Kademlia.Bencode
