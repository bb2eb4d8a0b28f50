import Mathlib.Data.List.Basic
import Kademlia.Routing.Table

/-!
# The contacts of a routing table

Adding a contact brings in that contact and no other, without what a lookup notes about it. A failed
request brings in nothing.
-/

namespace Kademlia.Routing

namespace Bucket

lemma mem_add {b : Bucket} {k : Nat} {c : Contact} {e : BucketEntry} (h : e ∈ (b.add k c).2) :
    e ∈ b ∨ e.contact = c.bare := by
  unfold add at h
  dsimp only at h
  split_ifs at h
  · rcases List.mem_append.1 h with h | h
    · exact .inl (List.mem_of_mem_eraseP h)
    · exact .inr (List.mem_singleton.1 h ▸ rfl)
  · rcases List.mem_append.1 h with h | h
    · exact .inl h
    · exact .inr (List.mem_singleton.1 h ▸ rfl)
  · rcases List.mem_append.1 h with h | h
    · exact .inl (List.mem_of_mem_eraseP h)
    · exact .inr (List.mem_singleton.1 h ▸ rfl)
  · exact .inl h

lemma mem_fail {b : Bucket} {c : Contact} {e : BucketEntry} (h : e ∈ b.fail c) :
    ∃ e' ∈ b, e'.contact = e.contact := by
  induction b with
  | nil => simp [fail] at h
  | cons f b ih =>
    unfold fail at h
    split_ifs at h
    · exact ⟨e, List.mem_cons_of_mem _ h, rfl⟩
    · rcases List.mem_cons.1 h with rfl | h
      · exact ⟨f, List.mem_cons_self, rfl⟩
      · exact ⟨e, List.mem_cons_of_mem _ h, rfl⟩
    · rcases List.mem_cons.1 h with rfl | h
      · exact ⟨e, List.mem_cons_self, rfl⟩
      · obtain ⟨e', he', heq⟩ := ih h
        exact ⟨e', List.mem_cons_of_mem _ he', heq⟩

end Bucket

namespace Table

variable {t : Table} {c d : Contact}

lemma mem_contacts_iff : d ∈ t.contacts ↔ ∃ b ∈ t.buckets, ∃ e ∈ b, e.contact = d := by
  simp only [contacts, entries, List.mem_map, List.mem_flatten, Vector.mem_toList_iff]
  constructor
  · rintro ⟨e, ⟨b, hb, he⟩, rfl⟩
    exact ⟨b, hb, e, he, rfl⟩
  · rintro ⟨b, hb, e, he, rfl⟩
    exact ⟨e, ⟨b, hb, he⟩, rfl⟩

lemma bucketOf_mem (t : Table) (id : Id) : t.bucketOf id ∈ t.buckets :=
  Vector.getElem_mem _

/-- A contact of a table in which one bucket was replaced is from there or from another bucket. -/
lemma mem_setBucket {id : Id} {b : Bucket} (h : d ∈ (t.setBucket id b).contacts) :
    d ∈ t.contacts ∨ ∃ e ∈ b, e.contact = d := by
  obtain ⟨b', hb', e, he, rfl⟩ := mem_contacts_iff.1 h
  rcases @Vector.mem_or_eq_of_mem_set _ _ _ _ _ _ (t.index id).isLt hb' with hb' | rfl
  · exact .inl (mem_contacts_iff.2 ⟨b', hb', e, he, rfl⟩)
  · exact .inr ⟨e, he, rfl⟩

lemma mem_add (h : d ∈ (t.add c).2.contacts) : d ∈ t.contacts ∨ d = c.bare := by
  unfold add at h
  split_ifs at h
  · exact .inl h
  · rcases mem_setBucket h with h | ⟨e, he, rfl⟩
    · exact .inl h
    · refine (Bucket.mem_add he).imp_left fun he => ?_
      exact mem_contacts_iff.2 ⟨_, t.bucketOf_mem c.id, e, he, rfl⟩

lemma mem_fail (h : d ∈ (t.fail c).contacts) : d ∈ t.contacts := by
  rcases mem_setBucket h with h | ⟨e, he, rfl⟩
  · exact h
  · obtain ⟨e', he', heq⟩ := Bucket.mem_fail he
    exact mem_contacts_iff.2 ⟨_, t.bucketOf_mem c.id, e', he', heq⟩

lemma contacts_empty (id : Id) (k : Nat) : (empty id k).contacts = [] := by
  refine List.eq_nil_iff_forall_not_mem.2 fun d hd => ?_
  obtain ⟨b, hb, e, he, -⟩ := mem_contacts_iff.1 hd
  obtain rfl := Vector.eq_of_mem_replicate hb
  exact List.not_mem_nil he

end Table

end Kademlia.Routing
