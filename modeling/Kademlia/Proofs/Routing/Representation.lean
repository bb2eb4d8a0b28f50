import Mathlib
import Kademlia.Proofs.Routing.Contacts

/-!
# What every routing table keeps

Looking up an identifier reads one bucket only, and the number of contacts is that of the entries.
Both rely on what is shown here of every table that adding, taking out and failures can lead to: a
bucket keeps within its size and its failures within their bound, each contact is in the bucket of
its distance, and no identifier is there twice.
-/

namespace Kademlia.Routing

namespace Bucket

/-- What every bucket of at most `k` contacts keeps. -/
structure Sound (k : Nat) (b : Bucket) : Prop where
  capacity : b.length ≤ k
  distinct : (b.map (·.contact.id)).Nodup
  bare : ∀ e ∈ b, e.contact = e.contact.bare
  failures : ∀ e ∈ b, e.failures < maxFailures

variable {k : Nat} {b : Bucket} {c : Contact}

lemma holds_iff {id : Id} : b.holds id = true ↔ id ∈ b.map (·.contact.id) := by
  simp [holds]

lemma sound_nil (k : Nat) : Sound k [] := by
  constructor <;> simp

/-- A part of a bucket keeps what the bucket keeps. -/
lemma Sound.sublist (h : b.Sound k) {b' : Bucket} (hb : b'.Sublist b) : b'.Sound k where
  capacity := hb.length_le.trans h.capacity
  distinct := h.distinct.sublist (hb.map _)
  bare := fun e he => h.bare e (hb.subset he)
  failures := fun e he => h.failures e (hb.subset he)

/-- A contact that is not there can be put at the end if there is room. -/
lemma Sound.snoc (h : b.Sound k) (hlength : b.length < k) (hc : c.id ∉ b.map (·.contact.id)) :
    Sound k (b ++ [⟨c.bare, 0⟩]) := by
  constructor
  · simpa using hlength
  · simp only [List.map_append, List.map_singleton]
    apply h.distinct.append (List.nodup_singleton _)
    simpa [Contact.bare] using hc
  · intro e he
    rcases List.mem_append.1 he with he | he
    · exact h.bare e he
    · obtain rfl := List.mem_singleton.1 he
      rfl
  · intro e he
    rcases List.mem_append.1 he with he | he
    · exact h.failures e he
    · obtain rfl := List.mem_singleton.1 he
      simp [maxFailures]

/-- Taking out the first entry of some kind makes room for one. -/
lemma Sound.length_eraseP_lt (h : b.Sound k) {p : BucketEntry → Bool} (hp : b.any p = true) :
    (b.eraseP p).length < k := by
  have hcapacity := h.capacity
  rw [List.length_eraseP, if_pos hp]
  obtain ⟨e, he, -⟩ := List.any_eq_true.1 hp
  have hpos := List.length_pos_of_mem he
  omega

/-- With each identifier there once, taking out its entry leaves none of it. -/
lemma Sound.notMem_eraseP (h : b.Sound k) (id : Id) :
    id ∉ (b.eraseP fun e => e.contact.id == id).map (·.contact.id) := by
  have hmap : (b.eraseP fun e => e.contact.id == id).map (·.contact.id) =
      (b.map (·.contact.id)).erase id := by
    simp only [List.erase_eq_eraseP', List.eraseP_map]
    rfl
  rw [hmap]
  exact h.distinct.not_mem_erase

lemma Sound.add (h : b.Sound k) (c : Contact) : (b.add k c).2.Sound k := by
  by_cases hholds : b.holds c.id = true
  · simp only [Bucket.add, hholds, if_true]
    apply (h.sublist List.eraseP_sublist).snoc (h.length_eraseP_lt hholds)
    exact h.notMem_eraseP c.id
  · have hnew : c.id ∉ b.map (·.contact.id) := by rwa [← holds_iff]
    by_cases hroom : b.length < k
    · simp only [Bucket.add, hholds, hroom, if_true]
      exact h.snoc hroom hnew
    · by_cases hfailing : (b.any fun e => 0 < e.failures) = true
      · simp only [Bucket.add, hholds, hroom, hfailing, if_true, if_false]
        apply (h.sublist List.eraseP_sublist).snoc (h.length_eraseP_lt hfailing)
        intro hmem
        exact hnew ((List.eraseP_sublist.map _).subset hmem)
      · simpa [Bucket.add, hholds, hroom, hfailing] using h

/-- A failure changes no contact, and drops one at most. -/
lemma contacts_fail_sublist (b : Bucket) (c : Contact) :
    ((b.fail c).map (·.contact)).Sublist (b.map (·.contact)) := by
  induction b with
  | nil => simp [fail]
  | cons e b ih =>
    by_cases hsame : e.contact.same c = true
    · by_cases hlast : maxFailures ≤ e.failures + 1
      · simp [fail, hsame, hlast]
      · simp [fail, hsame, hlast]
    · simpa [fail, hsame] using ih

lemma failures_fail (h : ∀ e ∈ b, e.failures < maxFailures) (c : Contact) :
    ∀ e ∈ b.fail c, e.failures < maxFailures := by
  induction b with
  | nil => simp [fail]
  | cons e b ih =>
    have hrest : ∀ e ∈ b, e.failures < maxFailures := fun e he => h e (List.mem_cons_of_mem _ he)
    by_cases hsame : e.contact.same c = true
    · by_cases hlast : maxFailures ≤ e.failures + 1
      · simpa [fail, hsame, hlast] using hrest
      · simp only [fail, hsame, hlast, if_true, if_false, List.forall_mem_cons]
        exact ⟨by omega, hrest⟩
    · simp only [fail, hsame, Bool.false_eq_true, if_false, List.forall_mem_cons]
      exact ⟨h e List.mem_cons_self, ih hrest⟩

lemma Sound.fail (h : b.Sound k) (c : Contact) : (b.fail c).Sound k := by
  have hcontacts := contacts_fail_sublist b c
  constructor
  · have hlength := hcontacts.length_le
    simp only [List.length_map] at hlength
    exact hlength.trans h.capacity
  · have hids := hcontacts.map (·.id)
    simp only [List.map_map] at hids
    exact h.distinct.sublist hids
  · intro e he
    obtain ⟨e', he', heq⟩ := mem_fail he
    rw [← heq]
    exact h.bare e' he'
  · exact failures_fail h.failures c

end Bucket

/-- What can be done to a table. -/
inductive Operation where
  | add (c : Contact)
  | remove (id : Id)
  | fail (c : Contact)

namespace Table

/-- Do something to a table. -/
def perform (t : Table) : Operation → Table
  | .add c => (t.add c).2
  | .remove id => t.remove id
  | .fail c => t.fail c

/-- Do several things to a table, the first one first. -/
def after (t : Table) (ops : List Operation) : Table :=
  ops.foldl perform t

/-- What every table keeps. -/
structure Sound (t : Table) : Prop where
  bucket : ∀ i : Fin 161, t.buckets[i].Sound t.k
  placed : ∀ i : Fin 161, ∀ e ∈ t.buckets[i], t.index e.contact.id = i
  foreign : ∀ i : Fin 161, ∀ e ∈ t.buckets[i], e.contact.id ≠ t.id

variable {t : Table}

lemma sound_empty (id : Id) (k : Nat) : (empty id k).Sound := by
  constructor
  · simp [empty, Bucket.sound_nil]
  · simp [empty]
  · simp [empty]

lemma getElem_setBucket (t : Table) (id : Id) (b : Bucket) (i : Fin 161) :
    (t.setBucket id b).buckets[i] = if t.index id = i then b else t.buckets[i] := by
  simp only [setBucket, Fin.getElem_fin, Vector.getElem_set, Fin.ext_iff]

/-- Another bucket can take the place of one if each of its contacts belongs there. -/
lemma Sound.setBucket (h : t.Sound) {id : Id} {b : Bucket} (hb : b.Sound t.k)
    (hplaced : ∀ e ∈ b, t.index e.contact.id = t.index id)
    (hforeign : ∀ e ∈ b, e.contact.id ≠ t.id) : (t.setBucket id b).Sound := by
  constructor
  all_goals
    intro i
    rw [getElem_setBucket]
    by_cases hi : t.index id = i
  · rwa [if_pos hi]
  · rw [if_neg hi]
    exact h.bucket i
  · rw [if_pos hi]
    intro e he
    exact (hplaced e he).trans hi
  · rw [if_neg hi]
    exact h.placed i
  · rwa [if_pos hi]
  · rw [if_neg hi]
    exact h.foreign i

lemma Sound.add (h : t.Sound) (c : Contact) : (t.add c).2.Sound := by
  by_cases hself : t.id = c.id
  · simpa [Table.add, hself] using h
  · simp only [Table.add, hself, if_false]
    apply h.setBucket ((h.bucket _).add c)
    · intro e he
      rcases Bucket.mem_add he with he | heq
      · exact h.placed _ e he
      · rw [heq]
        rfl
    · intro e he
      rcases Bucket.mem_add he with he | heq
      · exact h.foreign _ e he
      · rw [heq]
        exact Ne.symm hself

lemma Sound.remove (h : t.Sound) (id : Id) : (t.remove id).Sound := by
  apply h.setBucket ((h.bucket _).sublist List.filter_sublist)
  · intro e he
    exact h.placed _ e (List.mem_of_mem_filter he)
  · intro e he
    exact h.foreign _ e (List.mem_of_mem_filter he)

lemma Sound.fail (h : t.Sound) (c : Contact) : (t.fail c).Sound := by
  apply h.setBucket ((h.bucket _).fail c)
  all_goals
    intro e he
    obtain ⟨e', he', heq⟩ := Bucket.mem_fail he
    rw [← heq]
  · exact h.placed _ e' he'
  · exact h.foreign _ e' he'

lemma Sound.perform (h : t.Sound) (op : Operation) : (t.perform op).Sound := by
  cases op with
  | add c => exact h.add c
  | remove id => exact h.remove id
  | fail c => exact h.fail c

lemma Sound.after (h : t.Sound) (ops : List Operation) : (t.after ops).Sound := by
  induction ops generalizing t with
  | nil => exact h
  | cons op ops ih => exact ih (h.perform op)

/-- Whose table it is and how large its buckets are is settled at the start. -/
lemma setup_after (t : Table) (ops : List Operation) :
    (t.after ops).id = t.id ∧ (t.after ops).k = t.k := by
  induction ops generalizing t with
  | nil => exact ⟨rfl, rfl⟩
  | cons op ops ih =>
    have hone : (t.perform op).id = t.id ∧ (t.perform op).k = t.k := by
      cases op with
      | add c =>
        simp only [perform, Table.add]
        split
        · exact ⟨rfl, rfl⟩
        · exact ⟨rfl, rfl⟩
      | remove id => exact ⟨rfl, rfl⟩
      | fail c => exact ⟨rfl, rfl⟩
    obtain ⟨hid, hk⟩ := ih (t.perform op)
    exact ⟨hid.trans hone.1, hk.trans hone.2⟩

/-! ### What looking up relies on -/

lemma mem_entries_iff {e : BucketEntry} : e ∈ t.entries ↔ ∃ i : Fin 161, e ∈ t.buckets[i] := by
  simp only [entries, List.mem_flatten, Vector.mem_toList_iff, Vector.mem_iff_getElem]
  constructor
  · rintro ⟨_, ⟨i, hi, rfl⟩, he⟩
    exact ⟨⟨i, hi⟩, he⟩
  · rintro ⟨i, he⟩
    exact ⟨_, ⟨i, i.isLt, rfl⟩, he⟩

lemma ids_eq (t : Table) : t.contacts.map (·.id) = t.entries.map (·.contact.id) := by
  simp [contacts]

/-- No identifier is in two buckets, nor twice in one. -/
lemma Sound.nodup (h : t.Sound) : (t.contacts.map (·.id)).Nodup := by
  rw [ids_eq, entries, List.map_flatten, List.nodup_flatten]
  constructor
  · simp only [List.mem_map, Vector.mem_toList_iff, Vector.mem_iff_getElem]
    rintro _ ⟨_, ⟨i, hi, rfl⟩, rfl⟩
    exact (h.bucket ⟨i, hi⟩).distinct
  · rw [List.pairwise_map, List.pairwise_iff_getElem]
    intro i j hi hj hij id hid hid'
    simp only [List.mem_map, Vector.getElem_toList] at hid hid'
    obtain ⟨e, he, rfl⟩ := hid
    obtain ⟨e', he', heq⟩ := hid'
    rw [Vector.length_toList] at hi hj
    have hplace := h.placed ⟨i, hi⟩ e he
    have hplace' := h.placed ⟨j, hj⟩ e' he'
    rw [heq, hplace] at hplace'
    exact hij.ne (congrArg Fin.val hplace')

/-- The one bucket that is read holds an identifier exactly if it is in the table. -/
lemma Sound.contains_iff (h : t.Sound) {id : Id} :
    t.contains id = true ↔ id ∈ t.contacts.map (·.id) := by
  rw [contains, Bucket.holds_iff, ids_eq]
  constructor
  · intro hid
    obtain ⟨e, he, rfl⟩ := List.mem_map.1 hid
    exact List.mem_map.2 ⟨e, mem_entries_iff.2 ⟨_, he⟩, rfl⟩
  · intro hid
    obtain ⟨e, he, rfl⟩ := List.mem_map.1 hid
    obtain ⟨i, he⟩ := mem_entries_iff.1 he
    obtain rfl := h.placed i e he
    exact List.mem_map.2 ⟨e, he, rfl⟩

lemma isEmpty_iff (t : Table) : t.isEmpty = true ↔ t.size = 0 := by
  rw [size, List.length_eq_zero_iff, entries, List.flatten_eq_nil_iff, isEmpty, List.all_eq_true]
  simp only [List.isEmpty_iff]

/-- The representation of a routing table. After any additions, removals and failures, each bucket
holds at most `k` contacts, all at the distance it is for, with failures below the bound. No
identifier is there twice, the own one never, and contacts carry nothing that belongs to a lookup.
So the size is the number of identifiers, a table is empty exactly if its size is zero, and looking
into one bucket finds every identifier that is listed. -/
theorem buckets_represent (id : Id) (k : Nat) (ops : List Operation) :
    let t := (empty id k).after ops
    (∀ i : Fin 161, t.buckets[i].length ≤ k) ∧
    (∀ i : Fin 161, ∀ e ∈ t.buckets[i], id.distance e.contact.id = i) ∧
    (t.contacts.map (·.id)).Nodup ∧ id ∉ t.contacts.map (·.id) ∧
    (∀ c ∈ t.contacts, c.token = none ∧ c.announced = 0) ∧
    (∀ e ∈ t.entries, e.failures < maxFailures) ∧
    t.size = (t.contacts.map (·.id)).toFinset.card ∧
    (t.isEmpty = true ↔ t.size = 0) ∧
    ∀ x, t.contains x = true ↔ x ∈ t.contacts.map (·.id) := by
  intro t
  have h : t.Sound := (sound_empty id k).after ops
  have hid : t.id = id := ((empty id k).setup_after ops).1
  have hk : t.k = k := ((empty id k).setup_after ops).2
  have hentry : ∀ e ∈ t.entries, e.contact = e.contact.bare ∧ e.failures < maxFailures ∧
      e.contact.id ≠ id := by
    intro e he
    obtain ⟨i, he⟩ := mem_entries_iff.1 he
    exact ⟨(h.bucket i).bare e he, (h.bucket i).failures e he, hid ▸ h.foreign i e he⟩
  refine ⟨?_, ?_, h.nodup, ?_, ?_, ?_, ?_, t.isEmpty_iff, ?_⟩
  · intro i
    exact hk ▸ (h.bucket i).capacity
  · intro i e he
    rw [← hid]
    exact congrArg Fin.val (h.placed i e he)
  · rw [ids_eq]
    intro hmem
    obtain ⟨e, he, heq⟩ := List.mem_map.1 hmem
    exact (hentry e he).2.2 heq
  · intro c hc
    obtain ⟨e, he, rfl⟩ := List.mem_map.1 hc
    rw [(hentry e he).1]
    exact ⟨rfl, rfl⟩
  · intro e he
    exact (hentry e he).2.1
  · rw [List.toFinset_card_of_nodup h.nodup, ids_eq, List.length_map, size]
  · intro x
    exact h.contains_iff

end Table

end Kademlia.Routing
