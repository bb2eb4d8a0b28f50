import Kademlia.Lookup.Sweep
import Kademlia.Proofs.Metric

/-!
# The order of the candidates

The order computed at the last sort is that of all the candidates as long as there are as many of
them, because candidates are never taken out and what changes about them leaves their identifiers
alone. So the closest candidates are always those of a fresh sort.
-/

namespace Kademlia.Lookup

namespace Candidates

variable {c : Candidates} {n : Contact} {id : Id}

/-- The candidates, the one closest to the target first. -/
def ranking (c : Candidates) : List Contact :=
  c.found.mergeSort fun a b => Id.nearer c.target a.id b.id

/-- The positions of some identifiers, the one closest to the target first. -/
def positions (target : Id) (ids : List Id) : List Nat :=
  (ids.zipIdx.mergeSort fun a b => Id.nearer target a.1 b.1).map (·.2)

/-- The order is that of the candidates, unless there are more by now. -/
structure Memo (c : Candidates) : Prop where
  le : c.ordered ≤ c.found.length
  order : c.ordered = c.found.length → c.order = positions c.target (c.found.map (·.id))

/-! ### Candidates by their identifiers -/

/-- No identifier is there twice. -/
lemma nodup_ids (c : Candidates) : (c.found.map (·.id)).Nodup := by
  rw [List.nodup_iff_getElem?_ne_getElem?]
  intro i j hij hj heq
  rw [List.getElem?_eq_getElem hj] at heq
  have hi := (c.indexed _ i).2 heq
  have hj := (c.indexed _ j).2 (List.getElem?_eq_getElem hj)
  rw [hi] at hj
  exact hij.ne (Option.some.inj hj)

/-- What is found under an identifier is the candidate of that identifier. -/
lemma get?_eq_some_iff {c : Candidates} {id : Id} {n : Contact} :
    c.get? id = some n ↔ n ∈ c.found ∧ n.id = id := by
  rw [get?, Option.bind_eq_some_iff]
  constructor
  · rintro ⟨i, hi, hn⟩
    have hid := (c.indexed id i).1 hi
    rw [List.getElem?_map, hn] at hid
    exact ⟨List.mem_of_getElem? hn, Option.some.inj hid⟩
  · rintro ⟨hmem, rfl⟩
    obtain ⟨i, hi⟩ := List.getElem?_of_mem hmem
    exact ⟨i, (c.indexed n.id i).2 (by rw [List.getElem?_map, hi]; rfl), hi⟩

lemma isSome_get? (c : Candidates) (id : Id) :
    (c.get? id).isSome = true ↔ id ∈ c.found.map (·.id) := by
  rw [Option.isSome_iff_exists, List.mem_map]
  exact exists_congr fun n => get?_eq_some_iff

lemma get?_eq_find? (c : Candidates) (id : Id) : c.get? id = c.found.find? fun n => n.id == id := by
  cases hn : c.found.find? fun n => n.id == id with
  | none =>
    rw [List.find?_eq_none] at hn
    rw [Option.eq_none_iff_forall_ne_some]
    intro n hget
    obtain ⟨hmem, rfl⟩ := get?_eq_some_iff.1 hget
    exact hn n hmem (beq_self_eq_true _)
  | some n =>
    have hid : n.id = id := by simpa using List.find?_some hn
    exact get?_eq_some_iff.2 ⟨List.mem_of_find?_eq_some hn, hid⟩

lemma isSome_position? (c : Candidates) (id : Id) :
    (c.position? id).isSome = true ↔ id ∈ c.found.map (·.id) := by
  rw [Option.isSome_iff_exists, List.mem_iff_getElem?]
  exact exists_congr fun i => c.indexed id i

/-! ### Sorting -/

lemma ranking_perm (c : Candidates) : c.ranking.Perm c.found :=
  List.mergeSort_perm _ _

lemma pairwise_ranking (c : Candidates) :
    c.ranking.Pairwise fun a b => (Id.xor a.id c.target).toNat < (Id.xor b.id c.target).toNat :=
  Id.pairwise_mergeSort c.target Contact.id c.nodup_ids

/-- Whoever is not among the first of the ranking is farther away than all of these. -/
lemma lt_of_take_of_drop {k : Nat} {a b : Contact}
    (ha : a ∈ c.ranking.take k) (hb : b ∈ c.ranking.drop k) :
    (Id.xor a.id c.target).toNat < (Id.xor b.id c.target).toNat :=
  c.pairwise_ranking.rel_of_mem_take_of_mem_drop ha hb

/-- Fewer than `k` candidates are closer than one of the first `k` of the ranking. -/
lemma countP_closer_lt {k : Nat} {a : Contact}
    (ha : a ∈ c.ranking.take k) :
    (c.found.countP fun b => (Id.xor b.id c.target).toNat < (Id.xor a.id c.target).toNat) < k := by
  have hfar : ((c.ranking.drop k).countP fun b =>
      (Id.xor b.id c.target).toNat < (Id.xor a.id c.target).toNat) = 0 :=
    List.countP_eq_zero.2 fun b hb hcloser =>
      (lt_of_take_of_drop ha hb).asymm (of_decide_eq_true hcloser)
  have hself : ((c.ranking.take k).countP fun b =>
      (Id.xor b.id c.target).toNat < (Id.xor a.id c.target).toNat) < (c.ranking.take k).length :=
    List.countP_lt_length_iff.2 ⟨a, ha, by simp⟩
  rw [← (ranking_perm c).countP_eq, ← List.take_append_drop k c.ranking, List.countP_append, hfar]
  exact hself.trans_le (List.length_take_le k c.ranking)

lemma positions_eq (target : Id) (cs : List Contact) :
    (cs.zipIdx.mergeSort (nearer target)).map (·.2) = positions target (cs.map (·.id)) := by
  rw [positions, List.zipIdx_map, ← List.map_mergeSort (r := nearer target), List.map_map]
  · rfl
  · intro a _ b _
    rfl

lemma length_positions (target : Id) (ids : List Id) : (positions target ids).length = ids.length := by
  rw [positions, List.length_map, List.length_mergeSort, List.length_zipIdx]

/-- Looking up the positions gives the candidates in their order. -/
lemma filterMap_positions (target : Id) (cs : List Contact) (k : Nat) :
    ((positions target (cs.map (·.id))).take k).filterMap (cs[·]?) =
      (cs.mergeSort fun a b => Id.nearer target a.id b.id).take k := by
  have hlook : ((cs.zipIdx.mergeSort (nearer target)).take k).filterMap (fun p => cs[p.2]?) =
      ((cs.zipIdx.mergeSort (nearer target)).take k).filterMap (fun p => some p.1) := by
    refine List.filterMap_congr fun p hp => ?_
    have hmem := List.mem_mergeSort.1 (List.mem_of_mem_take hp)
    exact List.mem_zipIdx_iff_getElem?.1 hmem
  have hfirst : (cs.zipIdx.mergeSort (nearer target)).map (·.1) =
      cs.mergeSort fun a b => Id.nearer target a.id b.id := by
    rw [List.map_mergeSort (s := fun a b : Contact => Id.nearer target a.id b.id),
      List.zipIdx_map_fst]
    intro a _ b _
    rfl
  rw [← positions_eq, ← List.map_take, List.filterMap_map, ← hfirst, ← List.map_take,
    ← List.filterMap_eq_map]
  exact hlook

lemma ordered_sort (c : Candidates) : c.sort.ordered = c.sort.found.length := by
  unfold sort
  split
  · assumption
  · rfl

@[simp] lemma target_sort (c : Candidates) : c.sort.target = c.target := by
  unfold sort
  split <;> rfl

lemma Memo.sort (h : c.Memo) : c.sort.Memo := by
  refine ⟨c.ordered_sort.le, fun _ => ?_⟩
  unfold Candidates.sort
  split
  · next hlength => exact h.order hlength
  · exact positions_eq c.target c.found

lemma sort_sort (c : Candidates) : c.sort.sort = c.sort := by
  rw [sort, if_pos c.ordered_sort]

/-- The closest candidates are the first ones of a fresh sort. -/
lemma Memo.closest_eq (h : c.Memo) (count : Option Nat) :
    (c.closest count).1 = c.ranking.take (count.getD c.found.length) := by
  have horder := h.sort.order c.ordered_sort
  rw [target_sort, found_sort] at horder
  rw [ranking, ← filterMap_positions]
  cases count with
  | some k => simp only [closest, horder, found_sort, Option.getD_some]
  | none =>
    have hall : (positions c.target (c.found.map (·.id))).length ≤ c.found.length := by
      rw [length_positions, List.length_map]
    simp only [closest, horder, found_sort, Option.getD_none, List.take_of_length_le hall]

/-! ### Adding candidates -/

lemma Memo.empty (target : Id) : (Candidates.empty target).Memo :=
  ⟨le_rfl, fun _ => by simp [Candidates.empty, positions]⟩

lemma insert_of_mem (h : n.id ∈ c.found.map (·.id)) : c.insert n = (false, c) := by
  have hsome := (c.isSome_position? n.id).2 h
  unfold insert
  split
  · rfl
  · next hnone => simp [hnone] at hsome

lemma insert_of_notMem (h : n.id ∉ c.found.map (·.id)) :
    ∃ hindexed, c.insert n = (true, { c with
      found := c.found ++ [n], index := (n.id, c.found.length) :: c.index, indexed := hindexed }) := by
  have hnone := mt (c.isSome_position? n.id).1 h
  unfold insert
  split
  · next i hsome => simp [hsome] at hnone
  · next hnew => exact ⟨by simpa using c.indexed.snoc hnew, rfl⟩

lemma found_insert_of_notMem (h : n.id ∉ c.found.map (·.id)) :
    (c.insert n).2.found = c.found ++ [n] := by
  obtain ⟨_, heq⟩ := insert_of_notMem h
  rw [heq]

@[simp] lemma target_insert (c : Candidates) (n : Contact) : (c.insert n).2.target = c.target := by
  unfold Candidates.insert
  split <;> rfl

lemma Memo.insert (h : c.Memo) (n : Contact) : (c.insert n).2.Memo := by
  by_cases hn : n.id ∈ c.found.map (·.id)
  · rwa [insert_of_mem hn]
  · obtain ⟨_, heq⟩ := insert_of_notMem hn
    rw [heq]
    have hle := h.le
    -- the order is that of fewer than there are now, so nothing is promised of it
    refine ⟨?_, fun hlength => ?_⟩
    · simp only [List.length_append, List.length_singleton]
      omega
    · simp only [List.length_append, List.length_singleton] at hlength
      omega

/-! ### Changing candidates -/

section Modify

variable (c : Candidates) (id : Id) (f : Contact → Contact)

/-- Only the candidate of the identifier changes, and not its identifier. -/
lemma found_modify : (c.modify id f).found =
    c.found.map fun n => if n.id = id then { f n with id := n.id } else n := by
  unfold modify
  split
  · next i hi =>
    have hid := (c.indexed id i).1 hi
    rw [List.getElem?_map, Option.map_eq_some_iff] at hid
    obtain ⟨m, hm, rfl⟩ := hid
    apply List.ext_getElem?
    intro j
    rw [List.getElem?_modify, List.getElem?_map]
    cases hn : c.found[j]? with
    | none => rfl
    | some n =>
      -- the index knows of no other place with this identifier
      have hplace : n.id = m.id ↔ i = j := by
        constructor
        · intro heq
          have hj := (c.indexed m.id j).2 (by rw [List.getElem?_map, hn, ← heq]; rfl)
          exact Option.some.inj (hi.symm.trans hj)
        · rintro rfl
          rw [Option.some.inj (hn.symm.trans hm)]
      simp only [Option.map_eq_map, Option.map_some, hplace]
  · next hnone =>
    have habsent : id ∉ c.found.map (·.id) := by
      rw [← c.isSome_position? id, hnone]
      simp
    rw [List.map_congr_left (g := fun n => n), List.map_id']
    intro n hn
    rw [if_neg fun heq => habsent (List.mem_map.2 ⟨n, hn, heq⟩)]

/-- A change that leaves identifiers alone. -/
lemma found_modify_of_id {f : Contact → Contact} (hf : ∀ n, (f n).id = n.id) :
    (c.modify id f).found = c.found.map fun n => if n.id = id then f n else n := by
  have hsame (n : Contact) : { f n with id := n.id } = f n := by rw [← hf n]
  simp only [found_modify, hsame]

lemma map_id_modify : (c.modify id f).found.map (·.id) = c.found.map (·.id) := by
  rw [found_modify, List.map_map]
  refine List.map_congr_left fun n _ => ?_
  rw [Function.comp_apply]
  split <;> rfl

@[simp] lemma target_modify : (c.modify id f).target = c.target := by
  unfold modify
  split <;> rfl

/-- A change leaves the order alone, and what is remembered of it. -/
lemma order_modify : (c.modify id f).order = c.order ∧ (c.modify id f).ordered = c.ordered ∧
    (c.modify id f).resorts = c.resorts := by
  unfold modify
  split <;> exact ⟨rfl, rfl, rfl⟩

variable {c} in
lemma Memo.modify (h : c.Memo) : (c.modify id f).Memo := by
  obtain ⟨horder, hordered, -⟩ := c.order_modify id f
  have hlength : (c.modify id f).found.length = c.found.length := by
    rw [found_modify, List.length_map]
  refine ⟨?_, fun hall => ?_⟩
  · rw [hordered, hlength]
    exact h.le
  · rw [hordered, hlength] at hall
    rw [horder, target_modify, map_id_modify]
    exact h.order hall

end Modify

end Candidates

end Kademlia.Lookup
