import Mathlib
import Kademlia.Bencode.Dict

/-!
# Contents of dictionaries

What can be looked up in a value, at any depth, determines its canonical form. So a dictionary does
not depend on the order in which its entries were put in, nor on what they replaced.
-/

namespace Kademlia.Bencode

/-- The value of a key, the last of equal keys winning. -/
def lookup (k : Bytes) : List Entry → Option Value
  | [] => none
  | e :: es => (lookup k es).or (if e.1 = k then some e.2 else none)

/-- One step into a value. -/
inductive Step where
  | item (i : Nat)
  | entry (k : Bytes)

/-- What is found in a value along some steps. -/
def Value.part : Value → List Step → Option Value
  | v, [] => some v
  | .list items, .item i :: path => items[i]?.bind fun v => v.part path
  | .dict entries, .entry k :: path => (lookup k entries).bind fun v => v.part path
  | _, _ => none

/-- What a value is, apart from what is inside. -/
inductive Shape where
  | int (n : Int64)
  | bytes (bs : Bytes)
  | list (length : Nat)
  | dict

def Value.shape : Value → Shape
  | .int n => .int n
  | .bytes bs => .bytes bs
  | .list items => .list items.length
  | .dict _ => .dict

/-- The same is found everywhere in both values. -/
def Value.Same (v w : Value) : Prop :=
  ∀ path, (v.part path).map Value.shape = (w.part path).map Value.shape

/-! ### Looking up -/

section Lookup

variable {k : Bytes} {v : Value} {es es' : List Entry}

lemma mem_of_lookup (h : lookup k es = some v) : (k, v) ∈ es := by
  induction es with
  | nil => simp [lookup] at h
  | cons e es ih =>
    rw [lookup, Option.or_eq_some_iff] at h
    rcases h with h | ⟨-, h⟩
    · exact List.mem_cons_of_mem e (ih h)
    · split_ifs at h with hk
      obtain rfl := Option.some.inj h
      rw [← hk]
      exact List.mem_cons_self

lemma lookup_eq_none (h : ∀ e ∈ es, e.1 ≠ k) : lookup k es = none := by
  cases hv : lookup k es with
  | none => rfl
  | some v => exact absurd rfl (h _ (mem_of_lookup hv))

lemma lookup_snoc (k : Bytes) (es : List Entry) (e : Entry) :
    lookup k (es ++ [e]) = (if e.1 = k then some e.2 else none).or (lookup k es) := by
  induction es with
  | nil => simp [lookup]
  | cons f es ih => rw [List.cons_append, lookup, ih, lookup, Option.or_assoc]

lemma ne_of_lt {k k' : Bytes} (h : compare k k' = .lt) : k ≠ k' := by
  rintro rfl
  exact absurd (h.symm.trans Std.ReflCmp.compare_self) (by simp)

/-- With ascending keys, the first entry is the only one of its key. -/
lemma lookup_cons {e : Entry} (h : Ascending (e :: es)) (k : Bytes) :
    lookup k (e :: es) = if e.1 = k then some e.2 else lookup k es := by
  rw [lookup]
  split
  · next heq =>
    have hnone : lookup k es = none :=
      lookup_eq_none fun f hf => heq ▸ (ne_of_lt ((List.pairwise_cons.1 h).1 f hf)).symm
    rw [hnone, Option.none_or]
  · rw [Option.or_none]

lemma lookup_of_mem (h : Ascending es) {e : Entry} (he : e ∈ es) : lookup e.1 es = some e.2 := by
  induction es with
  | nil => simp at he
  | cons f es ih =>
    obtain ⟨hfirst, htail⟩ := List.pairwise_cons.1 h
    rw [lookup_cons h]
    rcases List.mem_cons.1 he with rfl | he
    · exact if_pos rfl
    · rw [if_neg (ne_of_lt (hfirst e he)), ih htail he]

/-- Entries with ascending keys are determined by what can be looked up. -/
lemma ascending_ext (h : Ascending es) (h' : Ascending es')
    (heq : ∀ k, lookup k es = lookup k es') : es = es' := by
  induction es generalizing es' with
  | nil =>
    cases es' with
    | nil => rfl
    | cons e' es' =>
      have hhead := heq e'.1
      rw [lookup_cons h', if_pos rfl] at hhead
      simp [lookup] at hhead
  | cons e es ih =>
    have hhead := heq e.1
    rw [lookup_cons h, if_pos rfl] at hhead
    cases es' with
    | nil => simp [lookup] at hhead
    | cons e' es' =>
      have hhead' := heq e'.1
      rw [lookup_cons h' e'.1, if_pos rfl] at hhead'
      have hrest := (List.pairwise_cons.1 h).1
      have hrest' := (List.pairwise_cons.1 h').1
      -- each first key is in both lists, and none comes before a first one
      have hkey : e.1 = e'.1 := by
        rcases List.mem_cons.1 (mem_of_lookup hhead.symm) with hmem | hmem
        · exact congrArg Prod.fst hmem
        · rcases List.mem_cons.1 (mem_of_lookup hhead') with hmem' | hmem'
          · exact (congrArg Prod.fst hmem').symm
          · have hlt := Std.TransCmp.lt_trans (hrest _ hmem') (hrest' _ hmem)
            exact absurd rfl (ne_of_lt hlt)
      have hvalue : e.2 = e'.2 := by
        rw [lookup_cons h', if_pos hkey.symm] at hhead
        exact Option.some.inj hhead
      obtain rfl : e = e' := Prod.ext hkey hvalue
      refine congrArg (e :: ·) (ih (List.pairwise_cons.1 h).2 (List.pairwise_cons.1 h').2 ?_)
      intro k
      by_cases hk : e.1 = k
      · rw [lookup_eq_none fun f hf => hk ▸ (ne_of_lt (hrest f hf)).symm,
          lookup_eq_none fun f hf => hk ▸ (ne_of_lt (hrest' f hf)).symm]
      · have hboth := heq k
        rwa [lookup_cons h, lookup_cons h', if_neg hk, if_neg hk] at hboth

lemma lookup_insertFresh (k k' : Bytes) (v : Value) (es : List Entry) :
    lookup k (insertFresh k' v es) = (lookup k es).or (if k' = k then some v else none) := by
  induction es with
  | nil => simp [insertFresh, lookup]
  | cons e es ih =>
    simp only [insertFresh]
    split
    · rw [lookup]
    · next heq =>
      have hkey : k' = e.1 := Std.LawfulEqCmp.eq_of_compare heq
      rw [lookup, hkey]
      split
      · cases lookup k es <;> simp
      · simp
    · next hgt =>
      have hne : k' ≠ e.1 := (ne_of_lt (Std.OrientedCmp.lt_of_gt hgt)).symm
      rw [lookup, lookup, ih]
      by_cases hk : k' = k
      · have he : e.1 ≠ k := fun he => hne (hk.trans he.symm)
        rw [if_neg he, Option.or_none, Option.or_none]
      · rw [if_neg hk, Option.or_none, Option.or_none]

lemma lookup_insertEntry (h : Ascending es) (k k' : Bytes) (v : Value) :
    lookup k (insertEntry k' v es) = if k' = k then some v else lookup k es := by
  induction es with
  | nil => simp [insertEntry, lookup]
  | cons e es ih =>
    have hall := ascending_insertEntry h (k := k') (v := v)
    have htail : Ascending es := (List.pairwise_cons.1 h).2
    simp only [insertEntry] at hall ⊢
    split at hall
    · rw [lookup_cons hall]
    · next heq =>
      have hkey : k' = e.1 := Std.LawfulEqCmp.eq_of_compare heq
      rw [lookup_cons hall, lookup_cons h]
      split_ifs with hk hk' <;> simp_all
    · next hgt =>
      have hne : k' ≠ e.1 := (ne_of_lt (Std.OrientedCmp.lt_of_gt hgt)).symm
      rw [lookup_cons hall, lookup_cons h, ih htail]
      split_ifs with hk hk' <;> simp_all

/-- Where no value goes under another key, what is found is what became of the value found before. -/
lemma lookup_filterMap (h : Ascending es) (f : Bytes → Value → Option Value) (k : Bytes) :
    lookup k (es.filterMap fun e => (f e.1 e.2).map fun v => (e.1, v)) =
      (lookup k es).bind (f k) := by
  induction es with
  | nil => rfl
  | cons e es ih =>
    have ih := ih (List.pairwise_cons.1 h).2
    rw [lookup_cons h]
    by_cases hk : e.1 = k
    · subst hk
      -- nothing after `e` has its key
      have hnone : lookup e.1 es = none :=
        lookup_eq_none fun e' he' => (ne_of_lt ((List.pairwise_cons.1 h).1 e' he')).symm
      rw [hnone, Option.bind_none] at ih
      rw [if_pos rfl, Option.bind_some]
      cases hf : f e.1 e.2 with
      | none => simp only [List.filterMap_cons, hf, Option.map_none, ih]
      | some v => simp [hf, lookup, ih]
    · rw [if_neg hk, ← ih]
      cases hf : f e.1 e.2 with
      | none => simp only [List.filterMap_cons, hf, Option.map_none]
      | some v => simp [hf, lookup, hk]

end Lookup

/-! ### Canonical values -/

lemma normalItems_eq_map (vs : List Value) : normalItems vs = vs.map Value.normal := by
  induction vs with
  | nil => rw [normalItems, List.map_nil]
  | cons v vs ih => rw [normalItems, ih, List.map_cons]

lemma lookup_normalEntries (k : Bytes) (es : List Entry) :
    lookup k (normalEntries es) = (lookup k es).map Value.normal := by
  induction es with
  | nil => rw [normalEntries, lookup, Option.map_none]
  | cons e es ih =>
    obtain ⟨k', v⟩ := e
    rw [normalEntries, lookup_insertFresh, ih, lookup]
    cases lookup k es with
    | some w => simp
    | none => by_cases hk : k' = k <;> simp [hk]

namespace Value

lemma part_normal (v : Value) (path : List Step) :
    v.normal.part path = (v.part path).map normal := by
  induction path generalizing v with
  | nil => simp [part]
  | cons step path ih =>
    cases v with
    | int n => cases step <;> simp [normal, part]
    | bytes bs => cases step <;> simp [normal, part]
    | list items =>
      cases step with
      | entry k => simp [normal, part]
      | item i =>
        rw [normal, part, part, normalItems_eq_map, List.getElem?_map]
        cases items[i]? with
        | none => simp
        | some w => simpa using ih w
    | dict entries =>
      cases step with
      | item i => simp [normal, part]
      | entry k =>
        rw [normal, part, part, lookup_normalEntries]
        cases lookup k entries with
        | none => simp
        | some w => simpa using ih w

lemma shape_normal (v : Value) : v.normal.shape = v.shape := by
  cases v <;> simp [normal, shape, normalItems_eq_map]

/-- The canonical form has the same contents. -/
lemma same_normal (v : Value) : v.normal.Same v := by
  intro path
  rw [part_normal, Option.map_map]
  exact congrArg (Option.map · _) (funext shape_normal)

/-- The items of two lists with the same contents have the same contents. -/
lemma Same.item {vs ws : List Value} (h : (Value.list vs).Same (.list ws)) {i : Nat} {v w : Value}
    (hv : vs[i]? = some v) (hw : ws[i]? = some w) : v.Same w := by
  intro path
  have hpath := h (.item i :: path)
  rwa [part, part, hv, hw, Option.bind_some, Option.bind_some] at hpath

lemma Same.entry {es es' : List Entry} (h : (Value.dict es).Same (.dict es')) {k : Bytes}
    {v w : Value} (hv : lookup k es = some v) (hw : lookup k es' = some w) : v.Same w := by
  intro path
  have hpath := h (.entry k :: path)
  rwa [part, part, hv, hw, Option.bind_some, Option.bind_some] at hpath

/-- Canonical values with the same contents are equal. -/
lemma Same.eq {v w : Value} (h : v.Same w) (hv : v.Canonical) (hw : w.Canonical) : v = w := by
  have hshape : v.shape = w.shape := Option.some.inj (h [])
  -- the induction reaches what is inside of `v`; its counterpart in `w` is found along one step
  induction hv generalizing w with
  | int n => cases w <;> simp_all [shape]
  | bytes bs => cases w <;> simp_all [shape]
  | @list items inner ih =>
    cases hw with
    | int n => simp [shape] at hshape
    | bytes bs => simp [shape] at hshape
    | dict ascending inner' => simp [shape] at hshape
    | @list items' inner' =>
      have hlength : items.length = items'.length := by simpa [shape] using hshape
      refine congrArg Value.list (List.ext_getElem hlength fun i hi hi' => ?_)
      have hsame := h.item (List.getElem?_eq_getElem hi) (List.getElem?_eq_getElem hi')
      exact ih _ (List.getElem_mem hi) hsame (inner' _ (List.getElem_mem hi'))
        (Option.some.inj (hsame []))
  | @dict entries ascending inner ih =>
    cases hw with
    | int n => simp [shape] at hshape
    | bytes bs => simp [shape] at hshape
    | list inner' => simp [shape] at hshape
    | @dict entries' ascending' inner' =>
      refine congrArg Value.dict (ascending_ext ascending ascending' fun k => ?_)
      have hpath := h [.entry k]
      simp only [part] at hpath
      cases hv : lookup k entries with
      | none => cases hw : lookup k entries' <;> simp_all
      | some v =>
        cases hw : lookup k entries' with
        | none => simp_all
        | some w =>
          have hsame := h.entry hv hw
          exact congrArg some (ih _ (mem_of_lookup hv) hsame (inner' _ (mem_of_lookup hw))
            (Option.some.inj (hsame [])))

/-- A canonical value is its own canonical form. -/
lemma normal_of_canonical {v : Value} (h : v.Canonical) : v.normal = v :=
  v.same_normal.eq v.canonical_normal h

/-- Values with the same contents have the same canonical form. -/
lemma Same.normal_eq {v w : Value} (h : v.Same w) : v.normal = w.normal := by
  refine Same.eq (fun path => ?_) v.canonical_normal w.canonical_normal
  rw [v.same_normal path, h path, w.same_normal path]

end Value

/-! ### Dictionaries -/

namespace Dict

/-- The dictionary that some entries are put into, one after the other. -/
def build (entries : List Entry) : Dict :=
  entries.foldl (fun d e => d.insert e.1 e.2) empty

lemma ext_entries {d d' : Dict} (h : d.entries = d'.entries) : d = d' := by
  cases d
  cases d'
  simpa using h

lemma lookup_entries_build (k : Bytes) (es : List Entry) :
    lookup k (build es).entries = (lookup k es).map Value.normal := by
  induction es using List.reverseRecOn with
  | nil => simp [build, empty, lookup]
  | append_singleton es e ih =>
    have hbuild : build (es ++ [e]) = (build es).insert e.1 e.2 := by simp [build]
    rw [hbuild, insert, lookup_insertEntry (build es).ascending, ih, lookup_snoc]
    by_cases hk : e.1 = k <;> simp [hk]

/-- Putting entries in one after the other leaves the last one of each key. -/
lemma build_eq_ofEntries (es : List Entry) : build es = ofEntries es := by
  refine ext_entries (ascending_ext (build es).ascending (ofEntries es).ascending fun k => ?_)
  rw [lookup_entries_build, ofEntries, lookup_normalEntries]

/-- A dictionary depends on the contents of what was put in, not on the order. -/
theorem build_eq_of_same {es es' : List Entry} (h : (Value.dict es).Same (.dict es')) :
    build es = build es' := by
  have hnormal := h.normal_eq
  rw [Value.normal, Value.normal] at hnormal
  rw [build_eq_ofEntries, build_eq_ofEntries]
  exact ext_entries (Value.dict.inj hnormal)

lemma get?_eq_lookup (d : Dict) (k : Bytes) : d.get? k = lookup k d.entries := by
  have hascending := d.ascending
  rw [get?]
  generalize d.entries = es at hascending ⊢
  induction es with
  | nil => rfl
  | cons e es ih =>
    rw [lookup_cons hascending]
    by_cases hk : e.1 = k
    · simp [hk]
    · simpa [hk] using ih (List.pairwise_cons.1 hascending).2

lemma get?_ofEntries (k : Bytes) (es : List Entry) :
    (ofEntries es).get? k = (lookup k es).map Value.normal := by
  rw [get?_eq_lookup, ofEntries, lookup_normalEntries]

/-- A dictionary is what can be looked up in it. -/
lemma ext_get? {d d' : Dict} (h : ∀ k, d.get? k = d'.get? k) : d = d' := by
  refine ext_entries (ascending_ext d.ascending d'.ascending fun k => ?_)
  rw [← get?_eq_lookup, ← get?_eq_lookup, h]

lemma get?_of_mem {d : Dict} {e : Entry} (h : e ∈ d.entries) : d.get? e.1 = some e.2 := by
  rw [get?_eq_lookup, lookup_of_mem d.ascending h]

lemma get?_insert (d : Dict) (k k' : Bytes) (v : Value) :
    (d.insert k v).get? k' = if k = k' then some v.normal else d.get? k' := by
  rw [get?_eq_lookup, get?_eq_lookup, insert, lookup_insertEntry d.ascending]

lemma canonical_of_get? {d : Dict} {k : Bytes} {v : Value} (h : d.get? k = some v) :
    v.Canonical := by
  rw [get?_eq_lookup] at h
  exact d.canonical_of_mem (mem_of_lookup h)

/-- A dictionary inside of a dictionary stands there as it is written. -/
lemma toValue_ofEntries {d : Dict} {k : Bytes} {es : List Entry} (h : d.get? k = some (.dict es)) :
    (ofEntries es).toValue = .dict es := by
  have hnormal := Value.normal_of_canonical (canonical_of_get? h)
  rwa [Value.normal] at hnormal

/-- The dictionary of the entries of a dictionary is that dictionary. -/
lemma ofEntries_entries (d : Dict) : ofEntries d.entries = d := by
  have hnormal := Value.normal_of_canonical d.canonical
  rw [Value.normal] at hnormal
  exact ext_entries (Value.dict.inj hnormal)

end Dict

end Kademlia.Bencode
