import Mathlib
import Kademlia.Proofs.Routing.Representation

/-!
# What each operation does to the entries of a routing table

Taking out an identifier, counting a failure and adding a contact each read and write one bucket.
Since a table has each contact in the bucket of its distance and no identifier twice, what they do
can be said of the entries as a whole.
-/

namespace Kademlia.Routing

namespace Bucket

variable {k : Nat} {b : Bucket} {c : Contact} {e : BucketEntry}

/-- The entry that gives way to a new contact in a full bucket. -/
def failing (b : Bucket) : Option BucketEntry :=
  b.find? fun e => 0 < e.failures

lemma mem_remove {id : Id} : e ∈ b.remove id ↔ e ∈ b ∧ e.contact.id ≠ id := by
  simp [remove]

/-- Contacts are told apart by their identifiers. -/
lemma nodup_of_distinct (h : (b.map (·.contact.id)).Nodup) : b.Nodup :=
  h.of_map

lemma same_iff {c d : Contact} : c.same d = true ↔ c.id = d.id ∧ c.address = d.address := by
  simp [Contact.same]

/-- A failure is counted for the contact it is about, which leaves at the last one allowed. -/
lemma mem_fail_iff (h : (b.map (·.contact.id)).Nodup) :
    e ∈ b.fail c ↔ (e ∈ b ∧ e.contact.same c = false) ∨
      ∃ old ∈ b, old.contact.same c = true ∧ old.failures + 1 < maxFailures ∧
        e = { old with failures := old.failures + 1 } := by
  induction b with
  | nil => simp [fail]
  | cons first b ih =>
    obtain ⟨hfirst, hrest⟩ := List.nodup_cons.1 h
    by_cases hsame : first.contact.same c = true
    · -- The others have other identifiers, so the failure is not about them.
      have hothers : ∀ f ∈ b, f.contact.same c = false := by
        intro f hf
        rw [Bool.eq_false_iff]
        intro hf'
        have hid : f.contact.id = first.contact.id :=
          (same_iff.1 hf').1.trans (same_iff.1 hsame).1.symm
        exact hfirst (List.mem_map.2 ⟨f, hf, hid⟩)
      by_cases hlast : maxFailures ≤ first.failures + 1
      · simp only [fail, hsame, hlast, if_true, List.mem_cons]
        constructor
        · intro he
          exact .inl ⟨.inr he, hothers e he⟩
        · rintro (⟨rfl | he, hother⟩ | ⟨old, rfl | hold, hmatch, hfew, -⟩)
          · rw [hsame] at hother
            cases hother
          · exact he
          · omega
          · rw [hothers old hold] at hmatch
            cases hmatch
      · simp only [fail, hsame, hlast, if_true, if_false, List.mem_cons]
        constructor
        · rintro (rfl | he)
          · exact .inr ⟨first, .inl rfl, hsame, by omega, rfl⟩
          · exact .inl ⟨.inr he, hothers e he⟩
        · rintro (⟨rfl | he, hother⟩ | ⟨old, rfl | hold, hmatch, -, rfl⟩)
          · rw [hsame] at hother
            cases hother
          · exact .inr he
          · exact .inl rfl
          · rw [hothers old hold] at hmatch
            cases hmatch
    · rw [Bool.not_eq_true] at hsame
      simp only [fail, hsame, Bool.false_eq_true, if_false, List.mem_cons, ih hrest]
      constructor
      · rintro (rfl | ⟨he, hother⟩ | ⟨old, hold, hmatch⟩)
        · exact .inl ⟨.inl rfl, hsame⟩
        · exact .inl ⟨.inr he, hother⟩
        · exact .inr ⟨old, .inr hold, hmatch⟩
      · rintro (⟨rfl | he, hother⟩ | ⟨old, rfl | hold, hmatch⟩)
        · exact .inl rfl
        · exact .inr (.inl ⟨he, hother⟩)
        · rw [hsame] at hmatch
          cases hmatch.1
        · exact .inr (.inr ⟨old, hold, hmatch⟩)

/-- A failure of a contact that is not there at that address changes nothing. -/
lemma fail_of_unknown (h : ∀ e ∈ b, e.contact.same c = false) : b.fail c = b := by
  induction b with
  | nil => rfl
  | cons first b ih =>
    obtain ⟨hfirst, hrest⟩ := List.forall_mem_cons.1 h
    simp only [fail, hfirst, Bool.false_eq_true, if_false, ih hrest]

/-- Taking out the first entry of a kind leaves the others. -/
lemma mem_eraseP_iff (h : b.Nodup) (p : BucketEntry → Bool) :
    e ∈ b.eraseP p ↔ e ∈ b ∧ b.find? p ≠ some e := by
  induction b with
  | nil => simp
  | cons first b ih =>
    obtain ⟨hfirst, hrest⟩ := List.nodup_cons.1 h
    by_cases hp : p first = true
    · rw [List.eraseP_cons_of_pos hp, List.find?_cons_of_pos hp, List.mem_cons]
      constructor
      · intro he
        refine ⟨.inr he, ?_⟩
        rintro ⟨rfl⟩
        exact hfirst he
      · rintro ⟨rfl | he, hne⟩
        · exact absurd rfl hne
        · exact he
    · rw [List.eraseP_cons_of_neg hp, List.find?_cons_of_neg hp, List.mem_cons, List.mem_cons,
        ih hrest]
      constructor
      · rintro (rfl | ⟨he, hne⟩)
        · refine ⟨.inl rfl, fun hfind => ?_⟩
          exact hp (List.find?_some hfind)
        · exact ⟨.inr he, hne⟩
      · rintro ⟨rfl | he, hne⟩
        · exact .inl rfl
        · exact .inr ⟨he, hne⟩

/-- With each identifier there once, the first entry of an identifier is the only one. -/
lemma mem_eraseP_id (h : (b.map (·.contact.id)).Nodup) (id : Id) :
    e ∈ b.eraseP (fun e => e.contact.id == id) ↔ e ∈ b ∧ e.contact.id ≠ id := by
  rw [mem_eraseP_iff (nodup_of_distinct h)]
  refine and_congr_right fun he => not_congr ?_
  constructor
  · intro hfind
    simpa using List.find?_some hfind
  · rintro rfl
    obtain ⟨f, hf⟩ : ∃ f, b.find? (fun f => f.contact.id == e.contact.id) = some f := by
      rw [← Option.isSome_iff_exists, List.find?_isSome]
      exact ⟨e, he, by simp⟩
    have hid : f.contact.id = e.contact.id := by simpa using List.find?_some hf
    rw [hf, List.inj_on_of_nodup_map h (List.mem_of_find?_eq_some hf) he hid]

/-- What is left of a bucket next to a contact that was let in: every other contact, without the
one that gave way. -/
lemma mem_add_iff (h : (b.map (·.contact.id)).Nodup) (hadded : (b.add k c).1 = true) :
    e ∈ (b.add k c).2 ↔ e = ⟨c.bare, 0⟩ ∨ (e ∈ b ∧ e.contact.id ≠ c.id ∧
      ¬ (b.holds c.id = false ∧ k ≤ b.length ∧ b.failing = some e)) := by
  by_cases hholds : b.holds c.id = true
  · simp only [add, hholds, if_true, List.mem_append, List.mem_singleton, mem_eraseP_id h]
    simp [or_comm]
  · have hother : ∀ e ∈ b, e.contact.id ≠ c.id := by
      intro e he hid
      rw [holds_iff] at hholds
      exact hholds (List.mem_map.2 ⟨e, he, hid⟩)
    rw [Bool.not_eq_true] at hholds
    by_cases hroom : b.length < k
    · simp only [add, hholds, hroom, Bool.false_eq_true, if_true, if_false, List.mem_append,
        List.mem_singleton, Nat.not_le.2 hroom, false_and, and_false, not_false_eq_true, and_true]
      rw [or_comm]
      exact or_congr_right ⟨fun he => ⟨he, hother e he⟩, And.left⟩
    · by_cases hfailing : (b.any fun e => 0 < e.failures) = true
      · simp only [add, hholds, hroom, hfailing, Bool.false_eq_true, if_true, if_false,
          List.mem_append, List.mem_singleton, mem_eraseP_iff (nodup_of_distinct h),
          Nat.not_lt.1 hroom, true_and]
        rw [or_comm]
        exact or_congr_right ⟨fun he => ⟨he.1, hother e he.1, he.2⟩, fun he => ⟨he.1, he.2.2⟩⟩
      · simp [add, hholds, hroom, hfailing] at hadded

/-- A contact that was let in is at the end, the others are in the order they were in. -/
lemma ids_add (h : (b.map (·.contact.id)).Nodup) (hadded : (b.add k c).1 = true) :
    ∃ rest, rest.Sublist (b.map (·.contact.id)) ∧ c.id ∉ rest ∧
      (b.add k c).2.map (·.contact.id) = rest ++ [c.id] := by
  by_cases hholds : b.holds c.id = true
  · refine ⟨(b.eraseP fun e => e.contact.id == c.id).map (·.contact.id),
      List.eraseP_sublist.map _, ?_, by simp [add, hholds, Contact.bare]⟩
    intro hmem
    obtain ⟨e, he, hid⟩ := List.mem_map.1 hmem
    exact ((mem_eraseP_id h c.id).1 he).2 hid
  · have hnew : c.id ∉ b.map (·.contact.id) := by rwa [← holds_iff]
    by_cases hroom : b.length < k
    · exact ⟨_, List.Sublist.refl _, hnew, by simp [add, hholds, hroom, Contact.bare]⟩
    · by_cases hfailing : (b.any fun e => 0 < e.failures) = true
      · refine ⟨(b.eraseP fun e => 0 < e.failures).map (·.contact.id),
          List.eraseP_sublist.map _, ?_, by simp [add, hholds, hroom, hfailing, Contact.bare]⟩
        intro hmem
        exact hnew ((List.eraseP_sublist.map _).subset hmem)
      · simp [add, hholds, hroom, hfailing] at hadded

/-- A contact is refused only if it is new and every place is taken by one without a failure. -/
lemma add_fst_iff : (b.add k c).1 = true ↔
    b.holds c.id = true ∨ b.length < k ∨ ∃ e ∈ b, 0 < e.failures := by
  by_cases hholds : b.holds c.id = true
  · simp [add, hholds]
  · by_cases hroom : b.length < k
    · simp [add, hholds, hroom]
    · have hany : (∃ e ∈ b, 0 < e.failures) ↔ (b.any fun e => 0 < e.failures) = true := by
        simp only [List.any_eq_true, decide_eq_true_eq]
      rw [hany]
      by_cases hfailing : (b.any fun e => 0 < e.failures) = true
      · simp only [add, hholds, hroom, hfailing, Bool.false_eq_true, if_true, if_false, or_true]
      · simp only [add, hholds, hroom, hfailing, Bool.false_eq_true, if_false, or_false]

lemma add_refused (hadded : (b.add k c).1 = false) : (b.add k c).2 = b := by
  by_cases hholds : b.holds c.id = true
  · simp [add, hholds] at hadded
  · by_cases hroom : b.length < k
    · simp [add, hholds, hroom] at hadded
    · by_cases hfailing : (b.any fun e => 0 < e.failures) = true
      · simp [add, hholds, hroom, hfailing] at hadded
      · simp [add, hholds, hroom, hfailing]

end Bucket

namespace Table

variable {t : Table} {c : Contact} {e : BucketEntry}

/-- A bucket has the entries whose distance it is for. -/
lemma Sound.mem_bucketOf (h : t.Sound) {id : Id} :
    e ∈ t.bucketOf id ↔ e ∈ t.entries ∧ t.index e.contact.id = t.index id := by
  constructor
  · intro he
    exact ⟨mem_entries_iff.2 ⟨_, he⟩, h.placed _ e he⟩
  · rintro ⟨he, hindex⟩
    obtain ⟨i, he⟩ := mem_entries_iff.1 he
    obtain rfl := h.placed i e he
    rwa [hindex] at he

lemma Sound.distinct (h : t.Sound) (id : Id) : ((t.bucketOf id).map (·.contact.id)).Nodup :=
  (h.bucket _).distinct

/-- With another bucket in the place of one, the entries are those of the other buckets and its
own. -/
lemma Sound.mem_entries_setBucket (h : t.Sound) {id : Id} {b : Bucket} :
    e ∈ (t.setBucket id b).entries ↔
      (e ∈ t.entries ∧ t.index e.contact.id ≠ t.index id) ∨ e ∈ b := by
  rw [mem_entries_iff]
  constructor
  · rintro ⟨i, he⟩
    rw [getElem_setBucket] at he
    split_ifs at he with hi
    · exact .inr he
    · refine .inl ⟨mem_entries_iff.2 ⟨i, he⟩, ?_⟩
      rw [h.placed i e he]
      exact Ne.symm hi
  · rintro (⟨he, hindex⟩ | he)
    · obtain ⟨i, he⟩ := mem_entries_iff.1 he
      obtain rfl := h.placed i e he
      refine ⟨t.index e.contact.id, ?_⟩
      rwa [getElem_setBucket, if_neg (Ne.symm hindex)]
    · refine ⟨t.index id, ?_⟩
      rwa [getElem_setBucket, if_pos rfl]

lemma setBucket_bucketOf (t : Table) (id : Id) : t.setBucket id (t.bucketOf id) = t := by
  simp [setBucket, bucketOf]

lemma Sound.mem_entries_remove (h : t.Sound) {id : Id} :
    e ∈ (t.remove id).entries ↔ e ∈ t.entries ∧ e.contact.id ≠ id := by
  rw [Table.remove, h.mem_entries_setBucket, Bucket.mem_remove, h.mem_bucketOf]
  constructor
  · rintro (⟨he, hindex⟩ | ⟨⟨he, -⟩, hid⟩)
    · exact ⟨he, fun hid => hindex (congrArg t.index hid)⟩
    · exact ⟨he, hid⟩
  · rintro ⟨he, hid⟩
    by_cases hindex : t.index e.contact.id = t.index id
    · exact .inr ⟨⟨he, hindex⟩, hid⟩
    · exact .inl ⟨he, hindex⟩

lemma Sound.mem_entries_fail (h : t.Sound) :
    e ∈ (t.fail c).entries ↔ (e ∈ t.entries ∧ e.contact.same c = false) ∨
      ∃ old ∈ t.entries, old.contact.same c = true ∧ old.failures + 1 < maxFailures ∧
        e = { old with failures := old.failures + 1 } := by
  have hindex : ∀ d : Contact, d.same c = true → t.index d.id = t.index c.id :=
    fun d hd => congrArg t.index (Bucket.same_iff.1 hd).1
  rw [Table.fail, h.mem_entries_setBucket, Bucket.mem_fail_iff (h.distinct _)]
  simp only [h.mem_bucketOf]
  constructor
  · rintro (⟨he, hplace⟩ | ⟨⟨he, -⟩, hother⟩ | ⟨old, ⟨hold, -⟩, hrest⟩)
    · refine .inl ⟨he, ?_⟩
      rw [Bool.eq_false_iff]
      exact fun hsame => hplace (hindex _ hsame)
    · exact .inl ⟨he, hother⟩
    · exact .inr ⟨old, hold, hrest⟩
  · rintro (⟨he, hother⟩ | ⟨old, hold, hsame, hrest⟩)
    · by_cases hplace : t.index e.contact.id = t.index c.id
      · exact .inr (.inl ⟨⟨he, hplace⟩, hother⟩)
      · exact .inl ⟨he, hplace⟩
    · exact .inr (.inr ⟨old, ⟨hold, hindex _ hsame⟩, hsame, hrest⟩)

lemma fail_of_unknown (hunknown : ∀ d ∈ t.contacts, d.same c = false) : t.fail c = t := by
  rw [fail, Bucket.fail_of_unknown, setBucket_bucketOf]
  intro e he
  exact hunknown _ (mem_contacts_iff.2 ⟨_, t.bucketOf_mem c.id, e, he, rfl⟩)

/-- Does an entry give way to a contact? The contact is new and finds no room, and the entry is the
first of the bucket with a failure. -/
structure GivesWay (t : Table) (c : Contact) (e : BucketEntry) : Prop where
  new : t.contains c.id = false
  full : t.k ≤ (t.bucketOf c.id).length
  first : (t.bucketOf c.id).failing = some e

lemma add_fst_iff : (t.add c).1 = true ↔ t.id ≠ c.id ∧ (t.contains c.id = true ∨
    (t.bucketOf c.id).length < t.k ∨ ∃ e ∈ t.bucketOf c.id, 0 < e.failures) := by
  by_cases hself : t.id = c.id
  · simp [add, hself]
  · simp only [add, hself, if_false, ne_eq, not_false_eq_true, true_and]
    exact Bucket.add_fst_iff

lemma add_refused (hadded : (t.add c).1 = false) : (t.add c).2 = t := by
  by_cases hself : t.id = c.id
  · simp [add, hself]
  · simp only [add, hself, if_false] at hadded ⊢
    rw [Bucket.add_refused hadded, setBucket_bucketOf]

lemma Sound.mem_entries_add (h : t.Sound) (hadded : (t.add c).1 = true) :
    e ∈ (t.add c).2.entries ↔ e = ⟨c.bare, 0⟩ ∨
      (e ∈ t.entries ∧ e.contact.id ≠ c.id ∧ ¬ t.GivesWay c e) := by
  have hself : t.id ≠ c.id := (add_fst_iff.1 hadded).1
  simp only [Table.add, hself, if_false] at hadded ⊢
  rw [h.mem_entries_setBucket, Bucket.mem_add_iff (h.distinct _) hadded, h.mem_bucketOf]
  constructor
  · rintro (⟨he, hplace⟩ | rfl | ⟨⟨he, -⟩, hid, hstays⟩)
    · refine .inr ⟨he, fun hid => hplace (congrArg t.index hid), fun hgives => ?_⟩
      exact hplace (h.mem_bucketOf.1 (List.mem_of_find?_eq_some hgives.first)).2
    · exact .inl rfl
    · exact .inr ⟨he, hid, fun hgives => hstays ⟨hgives.new, hgives.full, hgives.first⟩⟩
  · rintro (rfl | ⟨he, hid, hstays⟩)
    · exact .inr (.inl rfl)
    · by_cases hplace : t.index e.contact.id = t.index c.id
      · exact .inr (.inr ⟨⟨he, hplace⟩, hid, fun hgives =>
          hstays ⟨hgives.1, hgives.2.1, hgives.2.2⟩⟩)
      · exact .inl ⟨he, hplace⟩

end Table

end Kademlia.Routing
