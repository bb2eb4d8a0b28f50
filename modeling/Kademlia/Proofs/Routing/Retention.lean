import Mathlib
import Kademlia.Proofs.Routing.Entries

/-!
# Who stays in a routing table

What a table holds can be read off its history. An entry is there since the last addition that let
its identifier in, and has the failures reported for exactly its contact since then. A bucket is in
the order of these additions, so the first entry with a failure is the one that was least recently
added. It follows that a contact that answers is never displaced by what happens to others.
-/

namespace Kademlia.Routing

namespace Operation

/-- Does an operation report a failure of a contact at its address? -/
def fails (c : Contact) : Operation → Bool
  | .fail d => c.same d
  | _ => false

/-- Is an operation about a contact? It adds or takes out the identifier, or reports a failure at
the address. -/
def concerns (c : Contact) : Operation → Bool
  | .add d => d.id == c.id
  | .remove id => id == c.id
  | .fail d => c.same d

/-- Does an operation let an identifier into a table? -/
def Admits (t : Table) (id : Id) (op : Operation) : Prop :=
  ∃ c, op = .add c ∧ c.id = id ∧ (t.add c).1 = true

end Operation

namespace Table

/-- Did operation number `n` let an identifier in? -/
def Admitted (start : Table) (ops : List Operation) (id : Id) (n : Nat) : Prop :=
  ∃ op, ops[n]? = some op ∧ op.Admits (start.after (ops.take n)) id

/-- The last operation that let an identifier in has number `n`. -/
def LastAdmitted (start : Table) (ops : List Operation) (id : Id) (n : Nat) : Prop :=
  IsGreatest {n | start.Admitted ops id n} n

/-- What an entry tells of a run. Its contact is from the last addition that let its identifier in,
and its failures are those reported for this contact since. -/
def Records (start : Table) (ops : List Operation) (e : BucketEntry) : Prop :=
  ∃ n c, start.LastAdmitted ops e.contact.id n ∧ ops[n]? = some (.add c) ∧ e.contact = c.bare ∧
    e.failures = (ops.drop (n + 1)).countP (Operation.fails e.contact)

/-- Was an identifier let in before another, going by the last time each? -/
def Before (start : Table) (ops : List Operation) (x y : Id) : Prop :=
  ∀ n m, start.LastAdmitted ops x n → start.LastAdmitted ops y m → n < m

/-- An entry is the least recently added among those of a bucket that have a failure. -/
structure LeastRecent (start : Table) (ops : List Operation) (b : Bucket) (e : BucketEntry) :
    Prop where
  member : e ∈ b
  failing : 0 < e.failures
  oldest : ∀ f ∈ b, 0 < f.failures → ∀ n m, start.LastAdmitted ops e.contact.id n →
    start.LastAdmitted ops f.contact.id m → n ≤ m

variable {start t : Table} {ops : List Operation} {op : Operation} {x y : Id} {n m : Nat}
  {c : Contact} {e : BucketEntry}

/-! ### One operation more -/

lemma after_snoc (start : Table) (ops : List Operation) (op : Operation) :
    start.after (ops ++ [op]) = (start.after ops).perform op := by
  simp [after]

lemma Admitted.lt (h : start.Admitted ops x n) : n < ops.length := by
  obtain ⟨op, hop, -⟩ := h
  exact (List.getElem?_eq_some_iff.1 hop).1

lemma admitted_snoc : start.Admitted (ops ++ [op]) x n ↔
    start.Admitted ops x n ∨ (n = ops.length ∧ op.Admits (start.after ops) x) := by
  rcases lt_trichotomy n ops.length with hn | rfl | hn
  · simp [Admitted, List.getElem?_append_left hn, List.take_append_of_le_length hn.le, hn.ne]
  · simp [Admitted]
  · have hout : ¬ start.Admitted ops x n := fun h => absurd h.lt (by omega)
    have hout' : ¬ start.Admitted (ops ++ [op]) x n := fun h => absurd h.lt (by simp; omega)
    simp [hout, hout', hn.ne']

/-- An operation lets in one identifier at most. -/
lemma Admitted.eq (h : start.Admitted ops x n) (h' : start.Admitted ops y n) : x = y := by
  obtain ⟨op, hop, c, rfl, rfl, -⟩ := h
  obtain ⟨op', hop', d, rfl, rfl, -⟩ := h'
  rw [hop] at hop'
  cases hop'
  rfl

/-- Letting in another identifier, or nobody, changes nothing about an identifier. -/
lemma lastAdmitted_snoc (hop : ¬ op.Admits (start.after ops) x) :
    start.LastAdmitted (ops ++ [op]) x n ↔ start.LastAdmitted ops x n := by
  have hset : {n | start.Admitted (ops ++ [op]) x n} = {n | start.Admitted ops x n} := by
    ext n
    simp [admitted_snoc, hop]
  rw [LastAdmitted, LastAdmitted, hset]

/-- An operation that lets in an identifier is the last one that did. -/
lemma lastAdmitted_of_admits (hop : op.Admits (start.after ops) x) :
    start.LastAdmitted (ops ++ [op]) x ops.length := by
  constructor
  · exact admitted_snoc.2 (.inr ⟨rfl, hop⟩)
  · intro n hn
    rcases admitted_snoc.1 hn with hn | ⟨rfl, -⟩
    · exact hn.lt.le
    · exact le_rfl

lemma LastAdmitted.lt (h : start.LastAdmitted ops x n) : n < ops.length :=
  Admitted.lt h.1

/-- What an entry tells stays true if its identifier is not let in again and its failures are
counted. -/
lemma Records.snoc (h : start.Records ops e) (hop : ¬ op.Admits (start.after ops) e.contact.id)
    {e' : BucketEntry} (hcontact : e'.contact = e.contact)
    (hfailures : e'.failures = e.failures + if op.fails e.contact then 1 else 0) :
    start.Records (ops ++ [op]) e' := by
  obtain ⟨n, c, hlast, hadd, hbare, hcount⟩ := h
  have hn : n < ops.length := hlast.lt
  refine ⟨n, c, ?_, ?_, hcontact.trans hbare, ?_⟩
  · rw [hcontact]
    exact (lastAdmitted_snoc hop).2 hlast
  · rw [List.getElem?_append_left hn, hadd]
  · rw [hfailures, hcount, hcontact, List.drop_append_of_le_length hn, List.countP_append,
      List.countP_singleton]

/-- A contact that is let in starts without failures. -/
lemma records_of_admits (hadded : ((start.after ops).add c).1 = true) :
    start.Records (ops ++ [.add c]) ⟨c.bare, 0⟩ := by
  refine ⟨ops.length, c, ?_, by simp, rfl, by simp⟩
  exact lastAdmitted_of_admits ⟨c, rfl, rfl, hadded⟩

lemma Before.snoc (h : start.Before ops x y) (hx : ¬ op.Admits (start.after ops) x)
    (hy : ¬ op.Admits (start.after ops) y) : start.Before (ops ++ [op]) x y := by
  intro n m hn hm
  exact h n m ((lastAdmitted_snoc hx).1 hn) ((lastAdmitted_snoc hy).1 hm)

/-- Whoever is let in comes after everyone else. -/
lemma before_of_admits (hx : ¬ op.Admits (start.after ops) x)
    (hy : op.Admits (start.after ops) y) : start.Before (ops ++ [op]) x y := by
  intro n m hn hm
  obtain rfl := hm.unique (lastAdmitted_of_admits hy)
  exact ((lastAdmitted_snoc hx).1 hn).lt

/-! ### What a table recalls of its run -/

/-- Every entry tells of the run, and each bucket is in the order in which its contacts were last
let in. -/
structure Recalls (start : Table) (ops : List Operation) : Prop where
  entry : ∀ e ∈ (start.after ops).entries, start.Records ops e
  order : ∀ i : Fin 161,
    (((start.after ops).buckets.get i).map (·.contact.id)).Pairwise (start.Before ops)

lemma get_setBucket (t : Table) (id : Id) (b : Bucket) (i : Fin 161) :
    (t.setBucket id b).buckets.get i = if t.index id = i then b else t.buckets.get i :=
  getElem_setBucket t id b i

lemma recalls_empty (id : Id) (k : Nat) : (empty id k).Recalls [] := by
  constructor
  · intro e he
    obtain ⟨i, he⟩ := mem_entries_iff.1 he
    simp [after, empty] at he
  · intro i
    simp [after, empty]

/-- An operation that lets nobody in keeps the order if it only takes contacts away. -/
lemma Recalls.order_snoc (h : start.Recalls ops) (hop : ∀ x, ¬ op.Admits (start.after ops) x)
    {b : Bucket} (i : Fin 161)
    (hb : (b.map (·.contact.id)).Sublist (((start.after ops).buckets.get i).map (·.contact.id))) :
    (b.map (·.contact.id)).Pairwise (start.Before (ops ++ [op])) := by
  apply ((h.order i).sublist hb).imp
  intro x y hxy
  exact hxy.snoc (hop x) (hop y)

lemma Recalls.remove (h : start.Recalls ops) (hsound : (start.after ops).Sound) (id : Id) :
    start.Recalls (ops ++ [.remove id]) := by
  have hnobody : ∀ x, ¬ (Operation.remove id).Admits (start.after ops) x := by
    rintro x ⟨c, hc, -⟩
    cases hc
  constructor
  all_goals rw [after_snoc, perform]
  · intro e he
    exact (h.entry e (hsound.mem_entries_remove.1 he).1).snoc (hnobody _) rfl rfl
  · intro i
    rw [Table.remove, get_setBucket]
    apply h.order_snoc hnobody i
    split_ifs with hi
    · subst hi
      exact List.filter_sublist.map _
    · exact List.Sublist.refl _

lemma Recalls.fail (h : start.Recalls ops) (hsound : (start.after ops).Sound) (c : Contact) :
    start.Recalls (ops ++ [.fail c]) := by
  have hnobody : ∀ x, ¬ (Operation.fail c).Admits (start.after ops) x := by
    rintro x ⟨d, hd, -⟩
    cases hd
  constructor
  all_goals rw [after_snoc, perform]
  · intro e he
    rcases hsound.mem_entries_fail.1 he with ⟨he, hother⟩ | ⟨old, hold, hsame, -, rfl⟩
    · exact (h.entry e he).snoc (hnobody _) rfl (by simp [Operation.fails, hother])
    · exact (h.entry old hold).snoc (hnobody _) rfl (by simp [Operation.fails, hsame])
  · intro i
    rw [Table.fail, get_setBucket]
    apply h.order_snoc hnobody i
    split_ifs with hi
    · subst hi
      have hids := (Bucket.contacts_fail_sublist ((start.after ops).bucketOf c.id) c).map (·.id)
      rw [List.map_map, List.map_map] at hids
      exact hids
    · exact List.Sublist.refl _

lemma Recalls.add (h : start.Recalls ops) (hsound : (start.after ops).Sound) (c : Contact) :
    start.Recalls (ops ++ [.add c]) := by
  cases hadded : ((start.after ops).add c).1 with
  | false =>
    have hnobody : ∀ x, ¬ (Operation.add c).Admits (start.after ops) x := by
      rintro x ⟨d, hd, -, hd'⟩
      cases hd
      rw [hadded] at hd'
      cases hd'
    constructor
    all_goals rw [after_snoc, perform, add_refused hadded]
    · intro e he
      exact (h.entry e he).snoc (hnobody _) rfl rfl
    · intro i
      exact h.order_snoc hnobody i (List.Sublist.refl _)
  | true =>
    have hself : (start.after ops).id ≠ c.id := (add_fst_iff.1 hadded).1
    have hadmits : (Operation.add c).Admits (start.after ops) c.id := ⟨c, rfl, rfl, hadded⟩
    have hother : ∀ x, x ≠ c.id → ¬ (Operation.add c).Admits (start.after ops) x := by
      rintro x hx ⟨d, hd, rfl, -⟩
      cases hd
      exact hx rfl
    constructor
    all_goals rw [after_snoc, perform]
    · intro e he
      rcases (hsound.mem_entries_add hadded).1 he with rfl | ⟨he, hid, -⟩
      · exact records_of_admits hadded
      · exact (h.entry e he).snoc (hother _ hid) rfl rfl
    · intro i
      -- Only the bucket of the contact changes, and there it comes last.
      simp only [Table.add, hself, if_false] at hadded ⊢
      rw [get_setBucket]
      split_ifs with hi
      · subst hi
        obtain ⟨rest, hrest, hnew, hids⟩ := Bucket.ids_add (hsound.distinct c.id) hadded
        rw [hids, List.pairwise_append]
        refine ⟨?_, List.pairwise_singleton _ _, ?_⟩
        · apply ((h.order _).sublist hrest).imp_of_mem
          intro x y hx hy hxy
          exact hxy.snoc (hother x (ne_of_mem_of_not_mem hx hnew))
            (hother y (ne_of_mem_of_not_mem hy hnew))
        · intro x hx y hy
          obtain rfl := List.mem_singleton.1 hy
          exact before_of_admits (hother x (ne_of_mem_of_not_mem hx hnew)) hadmits
      · apply (h.order i).imp_of_mem
        intro x y hx hy hxy
        have hplace : ∀ z ∈ ((start.after ops).buckets.get i).map (·.contact.id), z ≠ c.id := by
          rintro _ hz rfl
          obtain ⟨f, hf, hid⟩ := List.mem_map.1 hz
          rw [← hid] at hi
          exact hi (hsound.placed i f hf)
        exact hxy.snoc (hother x (hplace x hx)) (hother y (hplace y hy))

lemma Recalls.snoc (h : start.Recalls ops) (hsound : (start.after ops).Sound) (op : Operation) :
    start.Recalls (ops ++ [op]) := by
  cases op with
  | add c => exact h.add hsound c
  | remove id => exact h.remove hsound id
  | fail c => exact h.fail hsound c

lemma recalls (id : Id) (k : Nat) (ops : List Operation) : (empty id k).Recalls ops := by
  induction ops using List.reverseRecOn with
  | nil => exact recalls_empty id k
  | append_singleton ops op ih => exact ih.snoc ((sound_empty id k).after ops) op

/-! ### Which contacts leave -/

/-- The first entry of a bucket with a failure is the least recently added one. -/
lemma Recalls.failing_iff (h : start.Recalls ops) (hsound : (start.after ops).Sound) :
    ((start.after ops).bucketOf x).failing = some e ↔
      start.LeastRecent ops ((start.after ops).bucketOf x) e := by
  have hleast : ∀ e, ((start.after ops).bucketOf x).failing = some e →
      start.LeastRecent ops ((start.after ops).bucketOf x) e := by
    intro e hfirst
    obtain ⟨hfailing, front, back, heq, hfront⟩ := List.find?_eq_some_iff_append.1 hfirst
    refine ⟨List.mem_of_find?_eq_some hfirst, by simpa using hfailing, ?_⟩
    intro f hf hpos n m hn hm
    have horder : (((start.after ops).bucketOf x).map (·.contact.id)).Pairwise (start.Before ops) :=
      h.order ((start.after ops).index x)
    rw [heq, List.map_append, List.map_cons, List.pairwise_append,
      List.pairwise_cons] at horder
    rw [heq] at hf
    rcases List.mem_append.1 hf with hf | hf
    · have hzero := hfront f hf
      simp only [Bool.not_eq_true', decide_eq_false_iff_not] at hzero
      exact absurd hpos hzero
    · rcases List.mem_cons.1 hf with rfl | hf
      · exact (hn.unique hm).le
      · exact (horder.2.1.1 _ (List.mem_map_of_mem hf) n m hn hm).le
  constructor
  · exact hleast e
  · intro he
    obtain ⟨f, hf⟩ : ∃ f, ((start.after ops).bucketOf x).failing = some f := by
      rw [← Option.isSome_iff_exists, Bucket.failing, List.find?_isSome]
      exact ⟨e, he.member, by simpa using he.failing⟩
    -- Both were let in by the same operation, so they are the same entry.
    have hmin := hleast f hf
    obtain ⟨n, -, hn, -⟩ := h.entry e (hsound.mem_bucketOf.1 he.member).1
    obtain ⟨m, -, hm, -⟩ := h.entry f (hsound.mem_bucketOf.1 hmin.member).1
    have hnm : n = m := le_antisymm (he.oldest f hmin.member hmin.failing n m hn hm)
      (hmin.oldest e he.member he.failing m n hm hn)
    subst hnm
    have hid : f.contact.id = e.contact.id := Admitted.eq hm.1 hn.1
    rw [hf, List.inj_on_of_nodup_map (hsound.distinct x) hmin.member he.member hid]

/-- With no identifier there twice, a contact is listed by one entry. -/
lemma Sound.eq_of_id_eq (h : t.Sound) {f : BucketEntry} (he : e ∈ t.entries) (hf : f ∈ t.entries)
    (hid : e.contact.id = f.contact.id) : e = f := by
  have hnodup := h.nodup
  rw [ids_eq] at hnodup
  exact List.inj_on_of_nodup_map hnodup he hf hid

lemma mem_contacts {d : Contact} : d ∈ t.contacts ↔ ∃ e ∈ t.entries, e.contact = d := by
  simp [contacts]

lemma Sound.bare (h : t.Sound) (he : e ∈ t.entries) : e.contact = e.contact.bare := by
  obtain ⟨i, he⟩ := mem_entries_iff.1 he
  exact (h.bucket i).bare e he

lemma Sound.mem_contacts_remove (h : t.Sound) {id : Id} {d : Contact} :
    d ∈ (t.remove id).contacts ↔ d ∈ t.contacts ∧ d.id ≠ id := by
  simp only [mem_contacts, h.mem_entries_remove]
  constructor
  · rintro ⟨e, ⟨he, hid⟩, rfl⟩
    exact ⟨⟨e, he, rfl⟩, hid⟩
  · rintro ⟨⟨e, he, rfl⟩, hid⟩
    exact ⟨e, ⟨he, hid⟩, rfl⟩

lemma Sound.mem_contacts_fail (h : t.Sound) (he : e ∈ t.entries) :
    e.contact ∈ (t.fail c).contacts ↔
      (e.contact.same c = true → e.failures + 1 < maxFailures) := by
  simp only [mem_contacts, h.mem_entries_fail]
  constructor
  · rintro ⟨f, ⟨hf, hother⟩ | ⟨old, hold, -, hfew, rfl⟩, hcontact⟩ hsame
    · rw [hcontact, hsame] at hother
      cases hother
    · have hid : old.contact.id = e.contact.id := congrArg Contact.id hcontact
      rwa [← h.eq_of_id_eq hold he hid]
  · intro hfew
    cases hsame : e.contact.same c with
    | false => exact ⟨e, .inl ⟨he, hsame⟩, rfl⟩
    | true => exact ⟨_, .inr ⟨e, he, hsame, hfew hsame, rfl⟩, rfl⟩

lemma Sound.mem_contacts_add (h : t.Sound) (he : e ∈ t.entries)
    (hadded : (t.add c).1 = true) :
    e.contact ∈ (t.add c).2.contacts ↔
      (c.id = e.contact.id → c.address = e.contact.address) ∧ ¬ t.GivesWay c e := by
  simp only [mem_contacts, h.mem_entries_add hadded]
  constructor
  · rintro ⟨f, rfl | ⟨hf, hid, hstays⟩, hcontact⟩
    · refine ⟨fun _ => show c.bare.address = _ from congrArg Contact.address hcontact,
        fun hgives => ?_⟩
      -- The contact cannot be listed already and be new.
      have hnew : ¬ t.contains c.id = true := by simp [hgives.new]
      apply hnew
      rw [h.contains_iff, ids_eq]
      exact List.mem_map.2 ⟨e, he, (congrArg Contact.id hcontact).symm⟩
    · obtain rfl := h.eq_of_id_eq hf he (congrArg Contact.id hcontact)
      exact ⟨fun hsame => absurd hsame.symm hid, hstays⟩
  · rintro ⟨haddress, hstays⟩
    by_cases hid : c.id = e.contact.id
    · refine ⟨_, .inl rfl, ?_⟩
      rw [h.bare he, Contact.bare, Contact.bare, hid, haddress hid]
    · exact ⟨e, .inr ⟨he, Ne.symm hid, hstays⟩, rfl⟩

lemma Sound.contains_of_mem (h : t.Sound) (he : e ∈ t.entries) : t.contains e.contact.id = true := by
  rw [h.contains_iff, ids_eq]
  exact List.mem_map_of_mem he

lemma Sound.foreign_of_mem (h : t.Sound) (he : e ∈ t.entries) : e.contact.id ≠ t.id := by
  obtain ⟨i, he⟩ := mem_entries_iff.1 he
  exact h.foreign i e he

/-- An identifier that is listed is let in again, whatever its address is now. -/
lemma Sound.add_of_contains (h : t.Sound) (hcontains : t.contains c.id = true) :
    (t.add c).1 = true := by
  refine add_fst_iff.2 ⟨?_, .inl hcontains⟩
  rw [h.contains_iff, ids_eq] at hcontains
  obtain ⟨e, he, hid⟩ := List.mem_map.1 hcontains
  rw [← hid]
  exact (h.foreign_of_mem he).symm

/-- The ways in which a contact leaves: it is taken out, it was seen at another address, this was
the last failure allowed, or it gave way. -/
lemma Sound.leaves_iff (h : t.Sound) (he : e ∈ t.entries) :
    e.contact ∉ (t.perform op).contacts ↔
      op = .remove e.contact.id ∨
      (∃ c, op = .add c ∧ c.id = e.contact.id ∧ c.address ≠ e.contact.address) ∨
      (∃ c, op = .fail c ∧ e.contact.same c = true ∧ e.failures + 1 = maxFailures) ∨
      ∃ c, op = .add c ∧ t.id ≠ c.id ∧ t.GivesWay c e := by
  cases op with
  | remove id =>
    show e.contact ∉ (t.remove id).contacts ↔ _
    rw [h.mem_contacts_remove]
    have hlisted : e.contact ∈ t.contacts := mem_contacts.2 ⟨e, he, rfl⟩
    simp only [hlisted, true_and, ne_eq, not_not, Operation.remove.injEq, reduceCtorEq, false_and,
      exists_false, or_false]
    exact eq_comm
  | fail c =>
    have hfew : e.failures < maxFailures := by
      obtain ⟨i, he⟩ := mem_entries_iff.1 he
      exact (h.bucket i).failures e he
    have hlast : ¬ e.failures + 1 < maxFailures ↔ e.failures + 1 = maxFailures := by omega
    show e.contact ∉ (t.fail c).contacts ↔ _
    rw [h.mem_contacts_fail he, Classical.not_imp, hlast]
    simp
  | add c =>
    show e.contact ∉ (t.add c).2.contacts ↔ _
    cases hadded : (t.add c).1 with
    | false =>
      have hlisted : e.contact ∈ t.contacts := mem_contacts.2 ⟨e, he, rfl⟩
      rw [add_refused hadded]
      constructor
      · exact fun hgone => absurd hlisted hgone
      · rintro (hop | ⟨d, hop, hid, -⟩ | ⟨d, hop, -⟩ | ⟨d, hop, hself, hgives⟩)
        · cases hop
        · cases hop
          rw [h.add_of_contains (hid ▸ h.contains_of_mem he)] at hadded
          cases hadded
        · cases hop
        · cases hop
          -- Whoever would give way has a failure, so the contact would have been let in.
          have hfailing : 0 < e.failures := by
            simpa using List.find?_some hgives.first
          have hmember := List.mem_of_find?_eq_some hgives.first
          rw [add_fst_iff.2 ⟨hself, .inr (.inr ⟨e, hmember, hfailing⟩)⟩] at hadded
          cases hadded
    | true =>
      have hself : t.id ≠ c.id := (add_fst_iff.1 hadded).1
      rw [h.mem_contacts_add he hadded, not_and_or, Classical.not_imp, not_not]
      constructor
      · rintro (⟨hid, haddress⟩ | hgives)
        · exact .inr (.inl ⟨c, rfl, hid, haddress⟩)
        · exact .inr (.inr (.inr ⟨c, rfl, hself, hgives⟩))
      · rintro (hop | ⟨d, hop, hmoved⟩ | ⟨d, hop, -⟩ | ⟨d, hop, -, hgives⟩)
        · cases hop
        · cases hop
          exact .inl hmoved
        · cases hop
        · cases hop
          exact .inr hgives

/-! ### The history of a contact -/

/-- A contact is listed after an addition exactly if it was let in, and then no other entry has its
identifier. -/
lemma Sound.add_lists (h : t.Sound) (c : Contact) :
    (t.add c).1 = true ↔ ∃ d ∈ (t.add c).2.contacts, d.same c = true := by
  constructor
  · intro hadded
    refine ⟨c.bare, mem_contacts.2 ⟨_, (h.mem_entries_add hadded).2 (.inl rfl), rfl⟩, ?_⟩
    exact Bucket.same_iff.2 ⟨rfl, rfl⟩
  · rintro ⟨d, hd, hsame⟩
    by_contra hrefused
    rw [Bool.not_eq_true] at hrefused
    rw [add_refused hrefused] at hd
    obtain ⟨e, he, rfl⟩ := mem_contacts.1 hd
    have hcontains := h.contains_of_mem he
    rw [(Bucket.same_iff.1 hsame).1] at hcontains
    rw [h.add_of_contains hcontains] at hrefused
    cases hrefused

/-- An entry without failures is not touched by what is about other contacts. -/
lemma Sound.unconcerned (h : t.Sound) (he : ⟨c.bare, 0⟩ ∈ t.entries)
    (hop : op.concerns c = false) : ⟨c.bare, 0⟩ ∈ (t.perform op).entries := by
  cases op with
  | remove id =>
    have hother : id ≠ c.id := beq_eq_false_iff_ne.1 hop
    exact h.mem_entries_remove.2 ⟨he, Ne.symm hother⟩
  | fail d =>
    exact h.mem_entries_fail.2 (.inl ⟨he, hop⟩)
  | add d =>
    have hother : d.id ≠ c.id := beq_eq_false_iff_ne.1 hop
    show _ ∈ (t.add d).2.entries
    cases hadded : (t.add d).1 with
    | false => rwa [add_refused hadded]
    | true =>
      refine (h.mem_entries_add hadded).2 (.inr ⟨he, Ne.symm hother, fun hgives => ?_⟩)
      have hfailing := List.find?_some hgives.first
      simp at hfailing

lemma Sound.unconcerned_after (h : t.Sound) (he : ⟨c.bare, 0⟩ ∈ t.entries)
    (hops : ∀ op ∈ ops, op.concerns c = false) : ⟨c.bare, 0⟩ ∈ (t.after ops).entries := by
  induction ops generalizing t with
  | nil => exact he
  | cons op ops ih =>
    obtain ⟨hop, hrest⟩ := List.forall_mem_cons.1 hops
    exact ih (h.perform op) (h.unconcerned he hop) hrest

/-- Who stays in a routing table, and who leaves when. Take a table after any additions, removals
and failures. An addition says whether the contact is listed afterwards, at its address; if not, it
changes nothing, and if so the contact has no failures and no other entry. From then on it stays
while its identifier is neither taken out nor added again and no failure is reported at its address,
whatever happens to others. An entry has the failures reported for exactly its contact since it was
last added, which are fewer than allowed. A contact leaves by being taken out, by moving to another
address, by the last failure allowed, or when a new contact finds its bucket full and it is the least
recently added one with a failure. That one alone gives way then. A failure of a contact that is not
listed at that address changes nothing. -/
theorem responsive_contacts_stay (id : Id) (k : Nat) (ops : List Operation) :
    let start := empty id k
    let t := start.after ops
    (∀ c, ((t.add c).1 = true ↔ ∃ d ∈ (t.add c).2.contacts, d.same c = true) ∧
      ((t.add c).1 = false → (t.add c).2 = t) ∧
      ((t.add c).1 = true → ∀ e, e ∈ (t.add c).2.entries ∧ e.contact.id = c.id ↔
        e = ⟨c.bare, 0⟩) ∧
      (t.contains c.id = true → (t.add c).1 = true)) ∧
    (∀ c more, (t.add c).1 = true → (∀ op ∈ more, op.concerns c = false) →
      ⟨c.bare, 0⟩ ∈ ((t.add c).2.after more).entries) ∧
    (∀ e ∈ t.entries, start.Records ops e ∧ e.failures < maxFailures) ∧
    (∀ e ∈ t.entries, ∀ op, e.contact ∉ (t.perform op).contacts ↔
      op = .remove e.contact.id ∨
      (∃ c, op = .add c ∧ c.id = e.contact.id ∧ c.address ≠ e.contact.address) ∨
      (∃ c, op = .fail c ∧ e.contact.same c = true ∧ e.failures + 1 = maxFailures) ∨
      (∃ c, op = .add c ∧ id ≠ c.id ∧ t.contains c.id = false ∧
        (t.bucketOf c.id).length = k ∧ start.LeastRecent ops (t.bucketOf c.id) e)) ∧
    (∀ c, id ≠ c.id → t.contains c.id = false → (t.bucketOf c.id).length = k →
      (∃ e ∈ t.bucketOf c.id, 0 < e.failures) →
      ∃ e, start.LeastRecent ops (t.bucketOf c.id) e ∧ (t.add c).1 = true ∧
        ∀ f, f ∈ (t.add c).2.entries ↔ f = ⟨c.bare, 0⟩ ∨ (f ∈ t.entries ∧ f ≠ e)) ∧
    ∀ c, (∀ d ∈ t.contacts, d.same c = false) → t.fail c = t := by
  intro start t
  have h : t.Sound := (sound_empty id k).after ops
  have hrecalls : start.Recalls ops := recalls id k ops
  have hid : t.id = id := (start.setup_after ops).1
  have hk : t.k = k := (start.setup_after ops).2
  have hfull : ∀ x, k ≤ (t.bucketOf x).length ↔ (t.bucketOf x).length = k := by
    intro x
    have hcapacity : (t.bucketOf x).length ≤ t.k := (h.bucket _).capacity
    omega
  have hgives : ∀ c e, t.GivesWay c e ↔ t.contains c.id = false ∧
      (t.bucketOf c.id).length = k ∧ start.LeastRecent ops (t.bucketOf c.id) e := by
    intro c e
    rw [← hrecalls.failing_iff h, ← hfull c.id]
    constructor
    · intro hgives
      exact ⟨hgives.new, hk ▸ hgives.full, hgives.first⟩
    · rintro ⟨hnew, hfull, hfirst⟩
      exact ⟨hnew, hk ▸ hfull, hfirst⟩
  refine ⟨fun c => ⟨h.add_lists c, add_refused, ?_, h.add_of_contains⟩, ?_, ?_, ?_, ?_,
    fun c => fail_of_unknown⟩
  · intro hadded e
    rw [h.mem_entries_add hadded]
    constructor
    · rintro ⟨rfl | ⟨-, hother, -⟩, hsame⟩
      · rfl
      · exact absurd hsame hother
    · rintro rfl
      exact ⟨.inl rfl, rfl⟩
  · intro c more hadded hmore
    exact (h.add c).unconcerned_after ((h.mem_entries_add hadded).2 (.inl rfl)) hmore
  · intro e he
    obtain ⟨i, hi⟩ := mem_entries_iff.1 he
    exact ⟨hrecalls.entry e he, (h.bucket i).failures e hi⟩
  · intro e he op
    rw [h.leaves_iff he]
    simp only [hgives, hid]
  · intro c hself hnew hlength hfailing
    obtain ⟨e, he⟩ : ∃ e, (t.bucketOf c.id).failing = some e := by
      rw [← Option.isSome_iff_exists, Bucket.failing, List.find?_isSome]
      simpa only [decide_eq_true_eq] using hfailing
    have hleast := (hrecalls.failing_iff h).1 he
    have hadded : (t.add c).1 = true :=
      add_fst_iff.2 ⟨hid ▸ hself, .inr (.inr hfailing)⟩
    refine ⟨e, hleast, hadded, fun f => ?_⟩
    rw [h.mem_entries_add hadded, hgives]
    refine or_congr_right (and_congr_right fun hf => ?_)
    constructor
    · rintro ⟨-, hstays⟩ rfl
      exact hstays ⟨hnew, hlength, hleast⟩
    · intro hne
      refine ⟨fun hsame => ?_, fun hf' => hne ?_⟩
      · have hcontains := h.contains_of_mem hf
        rw [hsame, hnew] at hcontains
        cases hcontains
      · have hfirst := (hrecalls.failing_iff h).2 hf'.2.2
        rw [he] at hfirst
        exact (Option.some.inj hfirst).symm

end Table

end Kademlia.Routing
