import Kademlia.Proofs.Distance
import Kademlia.Proofs.Routing.Representation

/-!
# Buckets, the order of contacts and the metric

The number of a bucket is the bit length of the distances in it, so the buckets of a table are ordered by
distance to the own identifier. To any other target the closest contacts are found by sorting, and no
two contacts are equally far from it.
-/

namespace Kademlia.Routing.Table

variable {t : Table}

/-- The `count` contacts of a table that are nearest to a target, the nearest one first. -/
structure Nearest (t : Table) (target : Id) (count : Nat) (near : List Contact) : Prop where
  listed : ∀ c ∈ near, c ∈ t.contacts
  length : near.length = min count t.size
  increasing : near.Pairwise fun c d =>
    c.id.toNat ^^^ target.toNat < d.id.toNat ^^^ target.toNat
  farther : ∀ c ∈ t.contacts, c ∉ near → ∀ d ∈ near,
    d.id.toNat ^^^ target.toNat < c.id.toNat ^^^ target.toNat

lemma Sound.nearest_closest (h : t.Sound) (target : Id) (count : Nat) :
    t.Nearest target count (t.closest target count) := by
  have hsorted := Id.pairwise_mergeSort target Contact.id h.nodup
  simp only [Id.toNat_xor] at hsorted
  have hperm := List.mergeSort_perm t.contacts fun c d => Id.nearer target c.id d.id
  refine ⟨fun c hc => hperm.mem_iff.1 (List.mem_of_mem_take hc), ?_, hsorted.take, ?_⟩
  · rw [closest, List.length_take, hperm.length_eq, contacts, List.length_map]
    rfl
  · intro c hc hleft d hd
    have hranked := hperm.mem_iff.2 hc
    rw [← List.take_append_drop count (t.contacts.mergeSort _), List.mem_append] at hranked
    exact hsorted.rel_of_mem_take_of_mem_drop hd (hranked.resolve_left hleft)

lemma Sound.xor_lt_of_bucket_lt (h : t.Sound) {i j : Fin 161} (hij : i < j) {e f : BucketEntry}
    (he : e ∈ t.buckets[i]) (hf : f ∈ t.buckets[j]) :
    e.contact.id.toNat ^^^ t.id.toNat < f.contact.id.toNat ^^^ t.id.toNat := by
  have hi : t.id.distance e.contact.id = i := congrArg Fin.val (h.placed i e he)
  have hj : t.id.distance f.contact.id = j := congrArg Fin.val (h.placed j f hf)
  exact Id.xor_lt_of_distance_lt (by rw [hi, hj]; exact hij)

/-- Everything is ordered by one metric. The distance of two identifiers is the bit length of their
exclusive or as a number: zero for one and the same only, at most 160, and what a machine computes in
words, where nothing is lost by narrowing the count of zero bits. Two identifiers compare by the exclusive
ors with the target, and equal only if they are the same. So in every table that additions, removals and
failures lead to, whoever is in a bucket of a lower number is closer to the own identifier than anybody
in one of a higher number, and the closest contacts to a target are as many as were asked for or all
there are, one farther than the other, and everybody else is farther than all of these. -/
theorem metric_orders_contacts :
    (∀ a b : Id, a.distance b = (a.toNat ^^^ b.toNat).size ∧ (a.distance b = 0 ↔ a = b) ∧
      a.distance b ≤ 160 ∧ (a.distanceInWords b).toNat = a.distance b ∧
      ∀ zeros ∈ Bytes.zerosInWord 0 (a.xor b).bytes,
        zeros.toNat < 160 ∧ zeros.toUInt8.toNat = zeros.toNat) ∧
    (∀ target a b : Id, Id.compareDistance target a b =
        compare (a.toNat ^^^ target.toNat) (b.toNat ^^^ target.toNat) ∧
      (Id.compareDistance target a b = .eq ↔ a = b)) ∧
    ∀ (id : Id) (k : Nat) (ops : List Operation),
      let t := (empty id k).after ops
      (∀ i j : Fin 161, i < j → ∀ e ∈ t.buckets.get i, ∀ f ∈ t.buckets.get j,
        e.contact.id.toNat ^^^ id.toNat < f.contact.id.toNat ^^^ id.toNat) ∧
      ∀ target count, t.Nearest target count (t.closest target count) := by
  refine ⟨fun a b => ?_, fun target a b => ?_, fun id k ops => ?_⟩
  · refine ⟨Id.distance_eq_size a b, Id.distance_eq_zero_iff, Id.distance_le a b,
      Id.toNat_distanceInWords a b, fun zeros hzeros => ?_⟩
    rcases Id.zerosInWord_xor a b with ⟨-, hnone⟩ | ⟨zeros', hzeros', hless, hnarrow, -⟩
    · rw [hnone] at hzeros
      cases hzeros
    · obtain rfl : zeros' = zeros := Option.some.inj (hzeros'.symm.trans hzeros)
      exact ⟨hless, hnarrow⟩
  · have hcompare : Id.compareDistance target a b =
        compare (a.toNat ^^^ target.toNat) (b.toNat ^^^ target.toNat) := by
      rw [Id.compareDistance_eq, Id.toNat_xor, Id.toNat_xor]
    refine ⟨hcompare, ?_⟩
    rw [hcompare, compare_eq_iff_eq, Nat.xor_left_inj]
    exact Id.toNat_injective.eq_iff
  · intro t
    have h : t.Sound := (sound_empty id k).after ops
    have hid : t.id = id := ((empty id k).setup_after ops).1
    refine ⟨fun i j hij e he f hf => ?_, h.nearest_closest⟩
    rw [← hid]
    exact h.xor_lt_of_bucket_lt hij he hf

end Kademlia.Routing.Table
