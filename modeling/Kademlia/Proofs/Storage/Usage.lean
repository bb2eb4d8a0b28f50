import Kademlia.Proofs.Storage.Order

/-!
# What can be seen of a store

A store is told to insert values, to hand out values of a key, and to count them. Each answer is
determined by what was inserted and used before: what is handed out was inserted, and what was inserted
stays until too many other values come in under its key, or too many other keys are used.
-/

namespace Kademlia.Storage.Usage

/-- What a store is told to do. -/
inductive Operation where
  | insert (key : Id) (value : Bytes)
  | get (key : Id) (num : Nat)
  | count (key : Id)

/-- What it answers. -/
inductive Answer where
  | done
  | values (values : List Bytes)
  | number (n : Nat)

/-- A store and the entropy it picks values with. -/
abbrev Running := Store × Entropy

def perform (p : Running) : Operation → Answer × Running
  | .insert key value => (.done, p.1.insert key value, p.2)
  | .get key num => (.values (p.1.get p.2 key num).1, (p.1.get p.2 key num).2)
  | .count key => (.number (p.1.count key), p)

/-- What some operations leave. -/
def after (p : Running) (ops : List Operation) : Running :=
  ops.foldl (fun p op => (perform p op).2) p

/-- The answers to some operations, in their order. -/
def answers (p : Running) : List Operation → List Answer
  | [] => []
  | op :: ops => (perform p op).1 :: answers (perform p op).2 ops

/-- The values that are inserted under a key, in their order. -/
def stored (key : Id) (ops : List Operation) : List Bytes :=
  ops.filterMap fun
    | .insert k value => if k = key then some value else none
    | _ => none

/-- The key that an operation uses: one that is inserted to, or one that has values and is read. -/
def Operation.key? (s : Store) : Operation → Option Id
  | .insert key _ => some key
  | .get key _ => if s.count key = 0 then none else some key
  | .count _ => none

/-- The keys that are used, in their order. -/
def used (p : Running) : List Operation → List Id
  | [] => []
  | op :: ops => (op.key? p.1).toList ++ used (perform p op).2 ops

/-- What else is in a list since the last `x`. -/
def since {α : Type} [DecidableEq α] (x : α) (xs : List α) : Finset α :=
  xs.foldl (fun others y => if y = x then ∅ else insert y others) ∅

/-- What can be seen of a store that started without values, after some operations. -/
structure Seen (maxKeys maxValues : Nat) (p : Running) (ops : List Operation) : Prop where
  /-- No more keys than there may be have values. -/
  keys : ∀ ks : Finset Id, (∀ key ∈ ks, (after p ops).1.count key ≠ 0) → ks.card ≤ maxKeys
  /-- No key has more values than there may be. -/
  values : ∀ key, (after p ops).1.count key ≤ maxValues
  /-- All values of a key are handed out, each of them once, and all were inserted under this key. -/
  all : ∀ key e, ((after p ops).1.get e key 0).1.Nodup ∧
    ((after p ops).1.get e key 0).1.length = (after p ops).1.count key ∧
      ∀ v ∈ ((after p ops).1.get e key 0).1, Operation.insert key v ∈ ops
  /-- Or as many of them as are asked for. -/
  picked : ∀ key e num, 0 < num → num < (after p ops).1.count key →
    ((after p ops).1.get e key num).1.Nodup ∧ ((after p ops).1.get e key num).1.length = num ∧
      ∀ v ∈ ((after p ops).1.get e key num).1, v ∈ ((after p ops).1.get e key 0).1
  /-- What was just inserted is there. -/
  latest : ∀ before key v e, ops = before ++ [.insert key v] → v ∈ ((after p ops).1.get e key 0).1
  /-- It stays until there is no room for it any more among the values that were inserted under its key,
  or for its key among those that were used. -/
  kept : ∀ before key v later e, ops = before ++ .insert key v :: later →
    ((stored key later).toFinset.erase v).card < maxValues →
    (∀ now, now <+: later → (since key (used p (before ++ .insert key v :: now))).card < maxKeys) →
    v ∈ ((after p ops).1.get e key 0).1
  /-- A count matters to no other answer. -/
  count : ∀ before key later, ops = before ++ .count key :: later →
    (answers p ops).eraseIdx before.length = answers p (before ++ later)

/-! ### Operations one after another -/

variable {p : Running} {ops later : List Operation}

lemma after_append (p : Running) (ops later : List Operation) :
    after p (ops ++ later) = after (after p ops) later :=
  List.foldl_append

lemma answers_append (p : Running) (ops later : List Operation) :
    answers p (ops ++ later) = answers p ops ++ answers (after p ops) later := by
  induction ops generalizing p with
  | nil => rfl
  | cons op ops ih => exact congrArg _ (ih _)

lemma length_answers (p : Running) (ops : List Operation) : (answers p ops).length = ops.length := by
  induction ops generalizing p with
  | nil => rfl
  | cons op ops ih => exact congrArg Nat.succ (ih _)

lemma used_append (p : Running) (ops later : List Operation) :
    used p (ops ++ later) = used p ops ++ used (after p ops) later := by
  induction ops generalizing p with
  | nil => rfl
  | cons op ops ih => exact (congrArg _ (ih _)).trans (List.append_assoc _ _ _).symm

lemma stored_append (key : Id) (ops later : List Operation) :
    stored key (ops ++ later) = stored key ops ++ stored key later :=
  List.filterMap_append

lemma since_append_singleton {α : Type} [DecidableEq α] (x : α) (xs : List α) (y : α) :
    since x (xs ++ [y]) = if y = x then ∅ else insert y (since x xs) :=
  List.foldl_append

/-! ### What a store has from its past -/

/-- What a store has was inserted, each value under its hash, and no key is without a value. -/
structure Records (maxKeys maxValues : Nat) (ops : List Operation) (s : Store) : Prop where
  keys : s.keys.Lawful maxKeys
  limit : s.maxValues = maxValues
  lawful : ∀ x ∈ s.keys.entries, x.2.Lawful maxValues
  nonempty : ∀ x ∈ s.keys.entries, x.2.entries ≠ []
  stored : ∀ x ∈ s.keys.entries, ∀ y ∈ x.2.entries,
    y.1 = Id.ofData y.2 ∧ Operation.insert x.1 y.2 ∈ ops

/-- The list of values that one is put into. -/
def slot (s : Store) (key : Id) : Recency Id Bytes :=
  (s.keys.peek? key).getD (.empty s.maxValues)

lemma peek_eq_slot (s : Store) (key : Id) : s.peek key = (slot s key).values := by
  unfold Store.peek slot
  cases s.keys.peek? key <;> rfl

namespace Records

variable {maxKeys maxValues : Nat} {s : Store}

lemma empty (maxKeys maxValues : Nat) :
    Records (max maxKeys 1) (max maxValues 1) [] (.empty maxKeys maxValues) where
  keys := Recency.lawful_empty _
  limit := rfl
  lawful _ hx := absurd hx List.not_mem_nil
  nonempty _ hx := absurd hx List.not_mem_nil
  stored _ hx := absurd hx List.not_mem_nil

lemma lawful_slot (h : Records maxKeys maxValues ops s) (key : Id) :
    (slot s key).Lawful maxValues := by
  unfold slot
  cases hpeek : s.keys.peek? key with
  | some values => exact h.lawful _ (Recency.mem_of_peek? hpeek)
  | none => exact h.limit ▸ Recency.lawful_empty s.maxValues

lemma stored_slot (h : Records maxKeys maxValues ops s) (key : Id) :
    ∀ y ∈ (slot s key).entries, y.1 = Id.ofData y.2 ∧ Operation.insert key y.2 ∈ ops := by
  unfold slot
  cases hpeek : s.keys.peek? key with
  | some values => exact h.stored _ (Recency.mem_of_peek? hpeek)
  | none => exact fun y hy => absurd hy List.not_mem_nil

lemma insert (h : Records maxKeys maxValues ops s) (hroom : 0 < maxValues) (key : Id) (value : Bytes) :
    Records maxKeys maxValues (ops ++ [.insert key value]) (s.insert key value) where
  keys := h.keys.put _ _
  limit := h.limit
  lawful x hx := by
    rcases Recency.mem_of_mem_put hx with rfl | hx
    · exact (h.lawful_slot key).put _ _
    · exact h.lawful x hx
  nonempty x hx := by
    rcases Recency.mem_of_mem_put hx with rfl | hx
    · have hcapacity := (h.lawful_slot key).capacity
      have hmem := Recency.mem_of_peek? (Recency.peek?_put (hcapacity ▸ hroom) (Id.ofData value) value)
      exact List.ne_nil_of_mem hmem
    · exact h.nonempty x hx
  stored x hx y hy := by
    rcases Recency.mem_of_mem_put hx with rfl | hx
    · rcases Recency.mem_of_mem_put hy with rfl | hy
      · exact ⟨rfl, List.mem_append_right _ List.mem_cons_self⟩
      · exact (h.stored_slot key y hy).imp_right (List.mem_append_left _)
    · exact (h.stored x hx y hy).imp_right (List.mem_append_left _)

lemma touch (h : Records maxKeys maxValues ops s) (key : Id) :
    Records maxKeys maxValues ops { s with keys := s.keys.touch key } where
  keys := h.keys.touch key
  limit := h.limit
  lawful x hx := h.lawful x (Recency.mem_of_mem_touch hx)
  nonempty x hx := h.nonempty x (Recency.mem_of_mem_touch hx)
  stored x hx := h.stored x (Recency.mem_of_mem_touch hx)

lemma mono (h : Records maxKeys maxValues ops s) (later : List Operation) :
    Records maxKeys maxValues (ops ++ later) s where
  keys := h.keys
  limit := h.limit
  lawful := h.lawful
  nonempty := h.nonempty
  stored x hx y hy := (h.stored x hx y hy).imp_right (List.mem_append_left later)

lemma perform (h : Records maxKeys maxValues ops p.1) (hroom : 0 < maxValues) (op : Operation) :
    Records maxKeys maxValues (ops ++ [op]) (perform p op).2.1 := by
  cases op with
  | insert key value => exact h.insert hroom key value
  | get key num => exact p.1.store_get p.2 key num ▸ (h.touch key).mono _
  | count key => exact h.mono _

end Records

lemma records (maxKeys maxValues : Nat) (e : Entropy) (ops : List Operation) :
    Records (max maxKeys 1) (max maxValues 1) ops (after (.empty maxKeys maxValues, e) ops).1 := by
  induction ops using List.reverseRecOn with
  | nil => exact .empty maxKeys maxValues
  | append_singleton ops op ih =>
    rw [after_append]
    exact ih.perform (Nat.le_max_right _ _) op

/-! ### What is handed out -/

namespace Records

variable {maxKeys maxValues : Nat} {s : Store}

lemma nodup_peek (h : Records maxKeys maxValues ops s) (key : Id) : (s.peek key).Nodup := by
  have hhashes : ((slot s key).entries.map (·.2)).map Id.ofData = (slot s key).entries.map (·.1) := by
    rw [List.map_map]
    exact List.map_congr_left fun y hy => (h.stored_slot key y hy).1.symm
  rw [peek_eq_slot]
  exact .of_map Id.ofData (hhashes ▸ (h.lawful_slot key).distinct)

lemma mem_of_mem_peek (h : Records maxKeys maxValues ops s) {key : Id} {v : Bytes}
    (hv : v ∈ s.peek key) : Operation.insert key v ∈ ops := by
  rw [peek_eq_slot] at hv
  obtain ⟨y, hy, rfl⟩ := List.mem_map.1 hv
  exact (h.stored_slot key y hy).2

lemma count_le (h : Records maxKeys maxValues ops s) (key : Id) : s.count key ≤ maxValues := by
  have hlawful := h.lawful_slot key
  rw [Store.count, peek_eq_slot, Recency.values, List.length_map]
  exact hlawful.fits.trans_eq hlawful.capacity

/-- A key that has no values is not there. -/
lemma count_eq_zero_iff (h : Records maxKeys maxValues ops s) (key : Id) :
    s.count key = 0 ↔ s.keys.peek? key = none := by
  unfold Store.count Store.peek
  cases hpeek : s.keys.peek? key with
  | some values =>
    have hnonempty := h.nonempty _ (Recency.mem_of_peek? hpeek)
    simpa [Recency.values] using hnonempty
  | none => simp

lemma card_le (h : Records maxKeys maxValues ops s) {ks : Finset Id}
    (hks : ∀ key ∈ ks, s.count key ≠ 0) : ks.card ≤ maxKeys := by
  have hsubset : ks ⊆ (s.keys.entries.map (·.1)).toFinset := by
    intro key hkey
    obtain ⟨values, hvalues⟩ := Option.ne_none_iff_exists'.1
      ((h.count_eq_zero_iff key).not.1 (hks key hkey))
    exact List.mem_toFinset.2 (List.mem_map_of_mem (f := (·.1)) (Recency.mem_of_peek? hvalues))
  calc ks.card ≤ (s.keys.entries.map (·.1)).toFinset.card := Finset.card_le_card hsubset
    _ ≤ (s.keys.entries.map (·.1)).length := List.toFinset_card_le _
    _ = s.keys.entries.length := List.length_map _
    _ ≤ maxKeys := h.keys.fits.trans_eq h.keys.capacity

end Records

/-- As many are picked as are asked for. -/
lemma length_sample {α : Type} {k : Nat} {xs : List α} (h : k ≤ xs.length) (e : Entropy) :
    (Entropy.sample k xs e).1.length = k := by
  induction k generalizing xs e with
  | zero => rfl
  | succ k ih =>
    have hi : e.next.1 % xs.length < xs.length := Nat.mod_lt _ (Nat.zero_lt_of_lt h)
    have hrest : k ≤ (xs.eraseIdx (e.next.1 % xs.length)).length := by
      rw [List.length_eraseIdx_of_lt hi]
      exact Nat.le_sub_one_of_lt h
    unfold Entropy.sample
    simp only [List.getElem?_eq_getElem hi, List.length_cons, ih hrest]

lemma fst_get_of_some {s : Store} {key : Id} {num : Nat} (hzero : 0 < num) (hless : num < s.count key)
    (e : Entropy) : (s.get e key num).1 = (Entropy.sample num (s.peek key) e).1 := by
  have hpick : ¬(num = 0 ∨ (s.peek key).length ≤ num) := not_or.2 ⟨hzero.ne', hless.not_ge⟩
  simp only [Store.get, if_neg hpick]

/-! ### What stays -/

/-- Is a value there, and were only certain other keys used since its key was, and only certain other
values inserted under its key since it was itself? -/
def Present (s : Store) (keys : Finset Id) (values : Finset Bytes) (key : Id) (v : Bytes) : Prop :=
  ∃ r, s.keys.Holds keys key r ∧ r.Holds (values.image Id.ofData) (Id.ofData v) v

namespace Present

variable {maxKeys maxValues : Nat} {s : Store} {keys : Finset Id} {values : Finset Bytes} {key k : Id}
  {v w : Bytes}

lemma mem_peek (h : Present s keys values key v) : v ∈ s.peek key := by
  obtain ⟨r, hkey, hvalue⟩ := h
  rw [Store.peek, hkey.peek?]
  exact List.mem_map_of_mem (f := (·.2)) (Recency.mem_of_peek? hvalue.peek?)

lemma of_insert (hr : Records maxKeys maxValues ops s) (hkeys : 0 < maxKeys) (hvalues : 0 < maxValues)
    (key : Id) (v : Bytes) : Present (s.insert key v) ∅ ∅ key v :=
  ⟨_, Recency.holds_put (hr.keys.capacity ▸ hkeys) key _,
    Recency.holds_put ((hr.lawful_slot key).capacity ▸ hvalues) _ v⟩

/-- When a value is inserted under the same key, the key is used, and the value may be another one. -/
lemma insert_same (h : Present s keys values key v) (hr : Records maxKeys maxValues ops s)
    (hkeys : 0 < maxKeys) (hhash : Id.ofData w = Id.ofData v → w = v) {values' : Finset Bytes}
    (hsub : values ⊆ values') (hw : w ≠ v → w ∈ values') (hroom : values'.card < maxValues) :
    Present (s.insert key w) ∅ values' key v := by
  obtain ⟨r, hkey, hvalue⟩ := h
  have hslot : slot s key = r := by rw [slot, hkey.peek?]; rfl
  have hlawful := hslot ▸ hr.lawful_slot key
  refine ⟨_, Recency.holds_put (hr.keys.capacity ▸ hkeys) key _, ?_⟩
  show ((slot s key).put (Id.ofData w) w).Holds _ _ _
  rw [hslot]
  by_cases heq : w = v
  · subst heq
    have hcapacity : 0 < r.capacity := hlawful.capacity ▸ Nat.zero_lt_of_lt hroom
    exact (Recency.holds_put hcapacity (Id.ofData w) w).mono (Finset.empty_subset _)
  · have hmem : Id.ofData w ∈ values'.image Id.ofData := Finset.mem_image_of_mem _ (hw heq)
    have hput := (hvalue.mono (Finset.image_subset_image hsub)).put hlawful (mt hhash heq)
      (by rw [Finset.insert_eq_of_mem hmem]; exact Finset.card_image_le.trans_lt hroom) w
    rwa [Finset.insert_eq_of_mem hmem] at hput

/-- When a value is inserted under another key, this key is one more that was used. -/
lemma insert_other (h : Present s keys values key v) (hr : Records maxKeys maxValues ops s)
    (hne : k ≠ key) (hroom : (insert k keys).card < maxKeys) (w : Bytes) :
    Present (s.insert k w) (insert k keys) values key v := by
  obtain ⟨r, hkey, hvalue⟩ := h
  exact ⟨r, hkey.put hr.keys hne hroom _, hvalue⟩

/-- When the key itself is read it is used. -/
lemma get_same (h : Present s keys values key v) (hr : Records maxKeys maxValues ops s)
    (hkeys : 0 < maxKeys) (e : Entropy) (num : Nat) :
    Present (s.get e key num).2.1 ∅ values key v := by
  obtain ⟨r, hkey, hvalue⟩ := h
  refine ⟨r, ?_, hvalue⟩
  rw [Store.keys_get, Recency.touch, hkey.peek?]
  exact Recency.holds_put (hr.keys.capacity ▸ hkeys) key r

/-- When another key is read it is one more that was used. -/
lemma get_other (h : Present s keys values key v) (hr : Records maxKeys maxValues ops s)
    (hne : k ≠ key) (hroom : (insert k keys).card < maxKeys) (e : Entropy) (num : Nat) :
    Present (s.get e k num).2.1 (insert k keys) values key v := by
  obtain ⟨r, hkey, hvalue⟩ := h
  refine ⟨r, ?_, hvalue⟩
  rw [Store.keys_get]
  exact hkey.touch hr.keys hne hroom

/-- When a key is read that has no values nothing is used. -/
lemma get_of_count (h : Present s keys values key v) (hr : Records maxKeys maxValues ops s)
    (hzero : s.count k = 0) (e : Entropy) (num : Nat) :
    Present (s.get e k num).2.1 keys values key v := by
  obtain ⟨r, hkey, hvalue⟩ := h
  refine ⟨r, ?_, hvalue⟩
  rw [Store.keys_get, Recency.touch, (hr.count_eq_zero_iff k).1 hzero]
  exact hkey

end Present

/-- A value stays while not too many others come in under its key, and not too many other keys are used
since its own was. -/
lemma present_after {maxKeys maxValues : Nat} {e : Entropy} {before : List Operation} {key : Id} {v : Bytes}
    (hhash : ∀ k w, Operation.insert k w ∈ later → Id.ofData w = Id.ofData v → w = v)
    (hvalues : ((stored key later).toFinset.erase v).card < max maxValues 1)
    (hkeys : ∀ now, now <+: later →
      (since key (used (.empty maxKeys maxValues, e) (before ++ .insert key v :: now))).card <
        max maxKeys 1) :
    Present (after (.empty maxKeys maxValues, e) (before ++ .insert key v :: later)).1
      (since key (used (.empty maxKeys maxValues, e) (before ++ .insert key v :: later)))
      ((stored key later).toFinset.erase v) key v := by
  generalize hp : ((.empty maxKeys maxValues, e) : Running) = p at hkeys ⊢
  have hrecords (ops : List Operation) :
      Records (max maxKeys 1) (max maxValues 1) ops (after p ops).1 := hp ▸ records ..
  have hone : 0 < max maxKeys 1 := Nat.le_max_right _ _
  -- along what is done later, the two sets of `Present` are what came since the key and since the value
  induction later using List.reverseRecOn with
  | nil =>
    rw [after_append, used_append]
    have hused : used (after p before) [.insert key v] = [key] := rfl
    rw [hused, since_append_singleton, if_pos rfl]
    exact .of_insert (hrecords before) hone (Nat.le_max_right _ _) key v
  | append_singleton later op ih =>
    have hlist : before ++ Operation.insert key v :: (later ++ [op]) =
        (before ++ .insert key v :: later) ++ [op] := by simp
    have hroom := hkeys (later ++ [op]) (List.prefix_refl _)
    have hsub : (stored key later).toFinset.erase v ⊆ (stored key (later ++ [op])).toFinset.erase v := by
      refine Finset.erase_subset_erase v fun w hw => ?_
      rw [List.mem_toFinset] at hw ⊢
      exact stored_append key later [op] ▸ List.mem_append_left _ hw
    have hpresent := ih (fun k w hw => hhash k w (List.mem_append_left _ hw))
      ((Finset.card_le_card hsub).trans_lt hvalues)
      fun now hnow => hkeys now (hnow.trans (List.prefix_append _ _))
    have hr := hrecords (before ++ .insert key v :: later)
    rw [hlist, used_append] at hroom ⊢
    rw [after_append]
    generalize after p (before ++ Operation.insert key v :: later) = q at hpresent hr hroom ⊢
    cases op with
    | insert k w =>
      rw [show used q [.insert k w] = [k] from rfl, since_append_singleton] at hroom ⊢
      split_ifs at hroom ⊢ with hk
      · subst hk
        refine hpresent.insert_same hr hone (hhash k w (by simp)) hsub (fun hw => ?_) hvalues
        rw [Finset.mem_erase, List.mem_toFinset, stored_append]
        exact ⟨hw, List.mem_append_right _ (by simp [stored])⟩
      · rw [stored_append, show stored key [.insert k w] = [] by simp [stored, hk], List.append_nil]
        exact hpresent.insert_other hr hk hroom w
    | get k num =>
      rw [stored_append, show stored key [.get k num] = [] from rfl, List.append_nil]
      by_cases hzero : q.1.count k = 0
      · rw [show used q [.get k num] = [] by simp [used, Operation.key?, hzero], List.append_nil]
        exact hpresent.get_of_count hr hzero q.2 num
      · rw [show used q [.get k num] = [k] by simp [used, Operation.key?, hzero],
          since_append_singleton] at hroom ⊢
        split_ifs at hroom ⊢ with hk
        · subst hk
          exact hpresent.get_same hr hone q.2 num
        · exact hpresent.get_other hr hk hroom q.2 num
    | count k =>
      rw [stored_append, show stored key [.count k] = [] from rfl,
        show used q [.count k] = [] from rfl, List.append_nil, List.append_nil]
      exact hpresent

/-- What can be seen of a store, whatever is done with it, as long as no two different values have the same
hash. -/
theorem seen_after (maxKeys maxValues : Nat) (e : Entropy) {ops : List Operation}
    (hhash : ∀ k v j w, Operation.insert k v ∈ ops → Operation.insert j w ∈ ops →
      Id.ofData v = Id.ofData w → v = w) :
    Seen (max maxKeys 1) (max maxValues 1) (.empty maxKeys maxValues, e) ops := by
  have hr := records maxKeys maxValues e ops
  have hall (key : Id) (e' : Entropy) :
      ((after (.empty maxKeys maxValues, e) ops).1.get e' key 0).1 =
        (after (.empty maxKeys maxValues, e) ops).1.peek key := Store.fst_get_of_all (.inl rfl)
  refine ⟨fun ks hks => hr.card_le hks, hr.count_le, fun key e' => ?_, fun key e' num hzero hless => ?_,
    fun before key v e' hops => ?_, fun before key v later e' hops hvalues hkeys => ?_,
    fun before key later hops => ?_⟩
  · rw [hall]
    exact ⟨hr.nodup_peek key, rfl, fun v hv => hr.mem_of_mem_peek hv⟩
  · have hpicked := subperm_sample num ((after (.empty maxKeys maxValues, e) ops).1.peek key) e'
    have ⟨picked, hperm, hsub⟩ := hpicked
    rw [hall, fst_get_of_some hzero hless]
    exact ⟨hperm.nodup_iff.1 ((hr.nodup_peek key).sublist hsub), length_sample hless.le e',
      fun v hv => hpicked.subset hv⟩
  · rw [hall, hops, after_append]
    exact (Present.of_insert (records maxKeys maxValues e before) (Nat.le_max_right _ _)
      (Nat.le_max_right _ _) key v).mem_peek
  · rw [hall, hops]
    refine (present_after (fun k w hw => ?_) hvalues hkeys).mem_peek
    refine hhash k w key v ?_ ?_
    · exact hops ▸ List.mem_append_right _ (List.mem_cons_of_mem _ hw)
    · exact hops ▸ List.mem_append_right _ List.mem_cons_self
  · rw [hops, answers_append, answers_append, List.eraseIdx_append_of_length_le (length_answers ..).le,
      length_answers, Nat.sub_self]
    rfl

namespace Shelf

/-- The key of one octet. -/
def key (b : UInt8) : Id :=
  .ofData [b]

/-- What is done after a value was inserted under the first key: a second key comes in, the first one is
read, a third key comes in, and the first one is given another value. -/
def rest : List Operation :=
  [.insert (key 2) [1], .get (key 1) 0, .insert (key 3) [1], .insert (key 1) [2], .count (key 2)]

/-- A store with room for two keys and two values of each. -/
def store : Running :=
  (.empty 2 2, ⟨fun n => n, 0⟩)

lemma hash_injOn : ∀ k v j w, Operation.insert k v ∈ .insert (key 1) [1] :: rest →
    Operation.insert j w ∈ .insert (key 1) [1] :: rest → Id.ofData v = Id.ofData w → v = w := by
  have hne : Id.ofData [1] ≠ Id.ofData [2] := by decide +kernel
  have hvalue (k : Id) (v : Bytes) (h : Operation.insert k v ∈ .insert (key 1) [1] :: rest) :
      v = [1] ∨ v = [2] := by
    simp only [rest, List.mem_cons, Operation.insert.injEq, reduceCtorEq, List.not_mem_nil,
      or_false, false_or] at h
    obtain ⟨-, h⟩ | ⟨-, h⟩ | ⟨-, h⟩ | ⟨-, h⟩ := h <;> simp [h]
  intro k v j w hv hw heq
  rcases hvalue k v hv with rfl | rfl <;> rcases hvalue j w hw with rfl | rfl
  · rfl
  · exact absurd heq hne
  · exact absurd heq.symm hne
  · rfl

end Shelf

/-- The key that was read stays when another one comes in, and has both of its values; the other key had to
go. -/
theorem seen_after_shelf :
    (∀ k v j w, Operation.insert k v ∈ .insert (Shelf.key 1) [1] :: Shelf.rest →
      Operation.insert j w ∈ .insert (Shelf.key 1) [1] :: Shelf.rest →
        Id.ofData v = Id.ofData w → v = w) ∧
      Seen (max 2 1) (max 2 1) Shelf.store (.insert (Shelf.key 1) [1] :: Shelf.rest) ∧
      [1] ∈ ((after Shelf.store (.insert (Shelf.key 1) [1] :: Shelf.rest)).1.get ⟨fun n => n, 0⟩
        (Shelf.key 1) 0).1 ∧
      (after Shelf.store (.insert (Shelf.key 1) [1] :: Shelf.rest)).1.count (Shelf.key 1) = 2 ∧
      (after Shelf.store (.insert (Shelf.key 1) [1] :: Shelf.rest)).1.count (Shelf.key 2) = 0 := by
  have hseen := seen_after 2 2 ⟨fun n => n, 0⟩ Shelf.hash_injOn
  have hroom : ∀ now ∈ Shelf.rest.inits, (since (Shelf.key 1)
      (used Shelf.store ([] ++ .insert (Shelf.key 1) [1] :: now))).card < max 2 1 := by decide +kernel
  refine ⟨Shelf.hash_injOn, hseen, ?_, by decide +kernel, by decide +kernel⟩
  exact hseen.kept [] (Shelf.key 1) [1] Shelf.rest _ rfl (by decide +kernel)
    fun now hnow => hroom now ((List.mem_inits now Shelf.rest).2 hnow)

end Kademlia.Storage.Usage
