import Kademlia.Proofs.Storage.Reading
import Mathlib.Data.Finset.Card

/-!
# What stays in a recency list

An entry goes only when a put finds as many keys used after it as there may be entries. So an entry stays
as long as the keys used since its own key was are fewer than that.
-/

namespace Kademlia.Storage.Recency

variable {κ ν : Type} [DecidableEq κ] {r : Recency κ ν} {n : Nat} {j k : κ} {v : ν} {newer : Finset κ}

/-- No more entries than there may be, with different keys. -/
structure Lawful (n : Nat) (r : Recency κ ν) : Prop where
  capacity : r.capacity = n
  fits : r.Fits
  distinct : (r.entries.map (·.1)).Nodup

omit [DecidableEq κ] in
lemma lawful_empty (n : Nat) : (empty n : Recency κ ν).Lawful n :=
  ⟨rfl, Nat.zero_le n, List.nodup_nil⟩

lemma Lawful.put (h : r.Lawful n) (k : κ) (v : ν) : (r.put k v).Lawful n := by
  refine ⟨h.capacity, fits_put k v, ?_⟩
  have hfresh : k ∉ (r.entries.filter fun e => e.1 ≠ k).map (·.1) := by simp
  have hkeys : (((k, v) :: r.entries.filter fun e => e.1 ≠ k).map (·.1)).Nodup :=
    List.nodup_cons.2 ⟨hfresh, h.distinct.sublist (List.filter_sublist.map _)⟩
  exact hkeys.sublist ((List.take_sublist _ _).map _)

lemma Lawful.touch (h : r.Lawful n) (k : κ) : (r.touch k).Lawful n := by
  unfold Recency.touch
  split
  · exact h.put _ _
  · exact h

/-- Is this the value of a key, and were only certain other keys used since? -/
def Holds (r : Recency κ ν) (newer : Finset κ) (k : κ) (v : ν) : Prop :=
  ∃ front back, r.entries = front ++ (k, v) :: back ∧ ∀ x ∈ front, x.1 ∈ newer ∧ x.1 ≠ k

lemma Holds.peek? (h : r.Holds newer k v) : r.peek? k = some v := by
  obtain ⟨front, back, hentries, hfront⟩ := h
  have hnone : (front.find? fun e => e.1 = k) = none :=
    List.find?_eq_none.2 fun x hx => by simpa using (hfront x hx).2
  rw [Recency.peek?, hentries, List.find?_append, hnone, Option.none_or,
    List.find?_cons_of_pos (by simp)]
  rfl

omit [DecidableEq κ] in
lemma Holds.mono {newer' : Finset κ} (h : r.Holds newer k v) (hsub : newer ⊆ newer') :
    r.Holds newer' k v := by
  obtain ⟨front, back, hentries, hfront⟩ := h
  exact ⟨front, back, hentries, fun x hx => (hfront x hx).imp_left fun hx => hsub hx⟩

/-- No key was used since one was put. -/
lemma holds_put (h : 0 < r.capacity) (k : κ) (v : ν) : (r.put k v).Holds ∅ k v := by
  obtain ⟨n, hn⟩ := Nat.exists_eq_succ_of_ne_zero h.ne'
  exact ⟨[], (r.entries.filter fun e => e.1 ≠ k).take n, by simp [put, hn], by simp⟩

/-- When another key is put, it is one more that was used since. There is room for all of them. -/
lemma Holds.put (h : r.Holds newer k v) (hr : r.Lawful n) (hj : j ≠ k)
    (hroom : (insert j newer).card < n) (w : ν) : (r.put j w).Holds (insert j newer) k v := by
  obtain ⟨front, back, hentries, hfront⟩ := h
  have hfront' : ∀ x ∈ (j, w) :: front.filter (fun e => e.1 ≠ j), x.1 ∈ insert j newer ∧ x.1 ≠ k := by
    refine List.forall_mem_cons.2 ⟨⟨Finset.mem_insert_self j newer, hj⟩, fun x hx => ?_⟩
    obtain ⟨hnewer, hne⟩ := hfront x (List.mem_of_mem_filter hx)
    exact ⟨Finset.mem_insert_of_mem hnewer, hne⟩
  have hfilter : (r.entries.filter fun e => e.1 ≠ j) =
      (front.filter fun e => e.1 ≠ j) ++ (k, v) :: back.filter fun e => e.1 ≠ j := by
    rw [hentries, List.filter_append, List.filter_cons_of_pos (by simpa using hj.symm)]
  have hdistinct : (((j, w) :: front.filter fun e => e.1 ≠ j).map (·.1)).Nodup := by
    have hentries' : (front.map (·.1)).Nodup :=
      hr.distinct.sublist ((hentries ▸ List.sublist_append_left front _).map _)
    exact List.nodup_cons.2 ⟨by simp, hentries'.sublist (List.filter_sublist.map _)⟩
  -- the keys in front are different ones of the set, so the put drops nothing down to the entry of `k`
  have hlength : ((j, w) :: front.filter fun e => e.1 ≠ j).length < n := by
    refine lt_of_le_of_lt ?_ hroom
    rw [← List.length_map (·.1), ← List.toFinset_card_of_nodup hdistinct]
    refine Finset.card_le_card fun i hi => ?_
    obtain ⟨x, hx, rfl⟩ := List.mem_map.1 (List.mem_toFinset.1 hi)
    exact (hfront' x hx).1
  obtain ⟨m, hm⟩ := Nat.exists_eq_add_of_lt hlength
  refine ⟨_, (back.filter fun e => e.1 ≠ j).take m, ?_, hfront'⟩
  show List.take r.capacity _ = _
  rw [hr.capacity, hfilter, ← List.cons_append, hm, Nat.add_assoc, List.take_length_add_append]
  rfl

/-- Using another key drops nothing, and it is one more that was used since. -/
lemma Holds.touch (h : r.Holds newer k v) (hr : r.Lawful n) (hj : j ≠ k)
    (hroom : (insert j newer).card < n) : (r.touch j).Holds (insert j newer) k v := by
  unfold Recency.touch
  split
  · exact h.put hr hj hroom _
  · exact h.mono (Finset.subset_insert j newer)

end Kademlia.Storage.Recency
