import Kademlia.Proofs.Storage.Bounds

/-!
# What reading leaves

Reading a key makes it the one that was used last, and so it may be another key that a later put drops.
But the keys that there are and the values they have stay the same: a put drops nothing from a list
that has the key already, because there is room for one entry less and the same one again.
-/

namespace Kademlia.Storage

/-! ### Using a key -/

namespace Recency

variable {κ ν : Type} [DecidableEq κ] {r : Recency κ ν}

/-- A list in which there are not more entries than there may be. -/
def Fits (r : Recency κ ν) : Prop :=
  r.entries.length ≤ r.capacity

lemma fits_put (k : κ) (v : ν) : (r.put k v).Fits :=
  length_put_le k v

lemma Fits.touch (h : r.Fits) (k : κ) : (r.touch k).Fits := by
  unfold Recency.touch
  split
  · exact fits_put _ _
  · exact h

/-- A put drops nothing from a list that has the key already. -/
lemma Fits.entries_put (h : r.Fits) {k : κ} {v : ν} (hk : r.peek? k = some v) (w : ν) :
    (r.put k w).entries = (k, w) :: r.entries.filter fun e => e.1 ≠ k := by
  refine List.take_of_length_le ?_
  have hless : (r.entries.filter fun e => e.1 ≠ k).length < r.entries.length :=
    List.length_filter_lt_length_iff_exists.2 ⟨(k, v), mem_of_peek? hk, by simp⟩
  rw [List.length_cons]
  exact hless.trans_le h

/-- Using a key changes no value. -/
lemma Fits.peek?_touch (h : r.Fits) (k j : κ) : (r.touch k).peek? j = r.peek? j := by
  unfold Recency.touch
  split
  · next v hk =>
    rw [peek?, h.entries_put hk, List.find?_cons]
    by_cases hj : k = j
    · subst hj
      simp [hk]
    · have hfilter : (r.entries.filter fun e => e.1 ≠ k).find? (fun e => e.1 = j) =
          r.entries.find? fun e => e.1 = j := by
        rw [List.find?_filter]
        congr 1
        funext e
        by_cases he : e.1 = j <;> simp [he, Ne.symm hj]
      simp only [hj, decide_false]
      rw [hfilter, peek?]
  · rfl

end Recency

/-! ### Reading a store -/

namespace Store

variable {s : Store}

lemma keys_get (s : Store) (e : Entropy) (key : Id) (num : Nat) :
    (s.get e key num).2.1.keys = s.keys.touch key := by
  rw [store_get]

lemma peek_eq_of_keys {s s' : Store} {key : Id} (h : s'.keys.peek? key = s.keys.peek? key) :
    s'.peek key = s.peek key := by
  rw [peek, peek, h]

/-- Reading changes the values of no key. -/
lemma peek_get (h : s.keys.Fits) (e : Entropy) (read : Id) (num : Nat) (key : Id) :
    (s.get e read num).2.1.peek key = s.peek key := by
  refine peek_eq_of_keys ?_
  rw [keys_get]
  exact h.peek?_touch read key

lemma fits_get (h : s.keys.Fits) (e : Entropy) (key : Id) (num : Nat) :
    (s.get e key num).2.1.keys.Fits := by
  rw [keys_get]
  exact h.touch key

lemma fits_insert (s : Store) (key : Id) (value : Bytes) : (s.insert key value).keys.Fits :=
  Recency.fits_put _ _

/-- Who asks for all values of a key, or for no fewer than there are, is given all of them. -/
lemma fst_get_of_all {e : Entropy} {key : Id} {num : Nat}
    (h : num = 0 ∨ (s.peek key).length ≤ num) : (s.get e key num).1 = s.peek key := by
  simp only [get, if_pos h]

end Store

end Kademlia.Storage
