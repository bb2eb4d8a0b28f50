import Kademlia.Proofs.Lookup.Candidates

/-!
# Candidates over time

Candidates are inserted, noted more of and asked for in any order. However this goes, they are those
inserted, each as it was inserted first with what was noted of it since, and the closest ones are
those of a fresh sort, though the order is computed no more often than candidates are added.
-/

namespace Kademlia.Lookup

namespace Candidates

/-- What may be done with candidates. -/
inductive Act where
  | insert (n : Contact)
  /-- Note the token of a candidate. -/
  | token (id : Id) (token : Bytes)
  /-- Note how many values a candidate announced. -/
  | announced (id : Id) (announced : Nat)
  | closest (count : Option Nat)

/-- The candidates after an act. -/
def perform (c : Candidates) : Act → Candidates
  | .insert n => (c.insert n).2
  | .token id token => c.modify id fun n => n.withToken token
  | .announced id announced => c.modify id fun n => n.withAnnounced announced
  | .closest count => (c.closest count).2

/-- The candidates after some acts. -/
def after (c : Candidates) (acts : List Act) : Candidates :=
  acts.foldl perform c

/-- Does an act add a candidate? -/
def adds (c : Candidates) : Act → Bool
  | .insert n => (c.insert n).1
  | _ => false

/-- How many of some acts add a candidate. -/
def additions (c : Candidates) : List Act → Nat
  | [] => 0
  | a :: acts => (if c.adds a then 1 else 0) + (c.perform a).additions acts

/-- The contact of an identifier after an act, from the one before it. -/
def Act.revise (id : Id) : Act → Option Contact → Option Contact
  | .insert n, known => if n.id = id then known.or (some n) else known
  | .token id' t, known => if id' = id then known.map (·.withToken t) else known
  | .announced id' n, known => if id' = id then known.map (·.withAnnounced n) else known
  | .closest _, known => known

/-- The contact of an identifier after some acts. -/
def current (acts : List Act) (id : Id) : Option Contact :=
  acts.foldl (fun known a => a.revise id known) none

/-- The contact that an act inserts under an identifier. -/
def Act.inserted? (id : Id) : Act → Option Contact
  | .insert n => if n.id = id then some n else none
  | _ => none

variable {c : Candidates} {id : Id}

/-! ### One act -/

lemma get?_insert (c : Candidates) (n : Contact) (id : Id) :
    (c.insert n).2.get? id = (Act.insert n).revise id (c.get? id) := by
  rw [Act.revise]
  by_cases hn : n.id ∈ c.found.map (·.id)
  · rw [insert_of_mem hn]
    split_ifs with hid
    · have hsome := (c.isSome_get? id).2 (hid ▸ hn)
      rw [Option.or_of_isSome hsome]
    · rfl
  · rw [get?_eq_find?, found_insert_of_notMem hn, List.find?_append, ← get?_eq_find?]
    by_cases hid : n.id = id <;> simp [hid]

lemma get?_modify (c : Candidates) (id' id : Id) (f : Contact → Contact)
    (hf : ∀ n, (f n).id = n.id) :
    (c.modify id' f).get? id = if id' = id then (c.get? id).map f else c.get? id := by
  have hsame (n : Contact) : (if n.id = id' then f n else n).id = n.id := by
    split_ifs
    · exact hf n
    · rfl
  rw [get?_eq_find?, found_modify_of_id c id' hf, List.find?_map]
  simp only [Function.comp_def, hsame]
  rw [← get?_eq_find?]
  cases hn : c.get? id with
  | none => simp
  | some n =>
    obtain ⟨-, rfl⟩ := get?_eq_some_iff.1 hn
    by_cases hid : id' = n.id <;> simp [hid, eq_comm]

lemma get?_closest (c : Candidates) (count : Option Nat) (id : Id) :
    (c.closest count).2.get? id = c.get? id := by
  rw [get?_eq_find?, found_closest, get?_eq_find?]

/-- An act changes the contact of an identifier as if there were no other. -/
lemma get?_perform (c : Candidates) (a : Act) (id : Id) :
    (c.perform a).get? id = a.revise id (c.get? id) := by
  cases a with
  | insert n => exact c.get?_insert n id
  | token id' t => exact c.get?_modify id' id (fun n => n.withToken t) fun _ => rfl
  | announced id' k => exact c.get?_modify id' id (fun n => n.withAnnounced k) fun _ => rfl
  | closest count => exact c.get?_closest count id

lemma target_perform (c : Candidates) (a : Act) : (c.perform a).target = c.target := by
  cases a with
  | insert n => exact c.target_insert n
  | token id token => exact c.target_modify id _
  | announced id announced => exact c.target_modify id _
  | closest count => exact c.target_sort

lemma Memo.perform (h : c.Memo) (a : Act) : (c.perform a).Memo := by
  cases a with
  | insert n => exact h.insert n
  | token id token => exact h.modify id _
  | announced id announced => exact h.modify id _
  | closest count => exact h.sort

lemma length_found_perform (c : Candidates) (a : Act) :
    (c.perform a).found.length = c.found.length + if c.adds a then 1 else 0 := by
  cases a with
  | insert n =>
    by_cases hn : n.id ∈ c.found.map (·.id)
    · simp [Candidates.perform, adds, insert_of_mem hn]
    · obtain ⟨_, heq⟩ := insert_of_notMem hn
      simp [Candidates.perform, adds, heq]
  | token id token => simp [Candidates.perform, adds, found_modify]
  | announced id announced => simp [Candidates.perform, adds, found_modify]
  | closest count => simp [Candidates.perform, adds, found_closest]

/-- The order is computed only for more candidates than the last time. -/
lemma Memo.resorts_perform (h : c.Memo) (hle : c.resorts ≤ c.ordered) (a : Act) :
    (c.perform a).resorts ≤ (c.perform a).ordered := by
  cases a with
  | insert n =>
    show (c.insert n).2.resorts ≤ (c.insert n).2.ordered
    unfold Candidates.insert
    split <;> exact hle
  | token id token =>
    obtain ⟨-, hordered, hresorts⟩ := c.order_modify id fun n => n.withToken token
    rwa [Candidates.perform, hordered, hresorts]
  | announced id announced =>
    obtain ⟨-, hordered, hresorts⟩ := c.order_modify id fun n => n.withAnnounced announced
    rwa [Candidates.perform, hordered, hresorts]
  | closest count =>
    show c.sort.resorts ≤ c.sort.ordered
    unfold Candidates.sort
    split_ifs with hall
    · exact hle
    · exact hle.trans_lt (lt_of_le_of_ne h.le hall)

/-! ### Many acts -/

lemma get?_after (c : Candidates) (acts : List Act) (id : Id) :
    (c.after acts).get? id = acts.foldl (fun known a => a.revise id known) (c.get? id) := by
  induction acts generalizing c with
  | nil => rfl
  | cons a acts ih =>
    rw [List.foldl_cons, ← get?_perform]
    exact ih (c.perform a)

lemma target_after (c : Candidates) (acts : List Act) : (c.after acts).target = c.target := by
  induction acts generalizing c with
  | nil => rfl
  | cons a acts ih => exact (ih (c.perform a)).trans (c.target_perform a)

lemma Memo.after (h : c.Memo) (acts : List Act) : (c.after acts).Memo := by
  induction acts generalizing c with
  | nil => exact h
  | cons a acts ih => exact ih (h.perform a)

lemma length_found_after (c : Candidates) (acts : List Act) :
    (c.after acts).found.length = c.found.length + c.additions acts := by
  induction acts generalizing c with
  | nil => rfl
  | cons a acts ih =>
    rw [additions, ← Nat.add_assoc, ← length_found_perform]
    exact ih (c.perform a)

lemma Memo.resorts_after (h : c.Memo) (hle : c.resorts ≤ c.ordered) (acts : List Act) :
    (c.after acts).resorts ≤ (c.after acts).ordered := by
  induction acts generalizing c with
  | nil => exact hle
  | cons a acts ih => exact ih (h.perform a) (h.resorts_perform hle a)

/-! ### What is known of an identifier -/

lemma current_snoc (acts : List Act) (a : Act) (id : Id) :
    current (acts ++ [a]) id = a.revise id (current acts id) := by
  rw [current, List.foldl_append]
  rfl

/-- The address is that of the first insertion, whatever was noted since. -/
lemma address_current (acts : List Act) (id : Id) :
    (current acts id).map (·.address) = (acts.findSome? (Act.inserted? id)).map (·.address) := by
  induction acts using List.reverseRecOn with
  | nil => rfl
  | append_singleton acts a ih =>
    rw [current_snoc, List.findSome?_append, Option.map_or, ← ih]
    cases a with
    | insert n =>
      by_cases hn : n.id = id <;> simp [Act.revise, Act.inserted?, hn]
    | token id' token =>
      by_cases hid : id' = id <;>
        simp [Act.revise, Act.inserted?, hid, Contact.withToken, Function.comp_def]
    | announced id' announced =>
      by_cases hid : id' = id <;>
        simp [Act.revise, Act.inserted?, hid, Contact.withAnnounced, Function.comp_def]
    | closest count => simp [Act.revise, Act.inserted?]

lemma isSome_current (acts : List Act) (id : Id) :
    (current acts id).isSome = true ↔ ∃ n, Act.insert n ∈ acts ∧ n.id = id := by
  rw [← Option.isSome_map (f := (·.address)), address_current, Option.isSome_map,
    List.findSome?_isSome_iff]
  constructor
  · rintro ⟨a, ha, hsome⟩
    cases a with
    | insert n =>
      refine ⟨n, ha, ?_⟩
      by_contra hne
      simp [Act.inserted?, hne] at hsome
    | token id' token => simp [Act.inserted?] at hsome
    | announced id' announced => simp [Act.inserted?] at hsome
    | closest count => simp [Act.inserted?] at hsome
  · rintro ⟨n, hn, rfl⟩
    exact ⟨_, hn, by simp [Act.inserted?]⟩

/-- Whatever was done before, the closest candidates are the first ones of a fresh sort of those found,
closer and closer to the target the earlier they come. Found are the identifiers that were inserted,
each once, at the address it was first inserted with, and with the token and the number that were noted
last. An identifier leads to its candidate, for a look and for a change. The order was computed no more
often than a candidate was added. -/
theorem closest_eq_fresh_sort (target : Id) (acts : List Act) :
    let c := (empty target).after acts
    (∃ sorted : List Contact, sorted.Perm c.found ∧
      sorted.Pairwise (fun a b => (Id.xor a.id target).toNat < (Id.xor b.id target).toNat) ∧
      (c.closest none).1 = sorted ∧ ∀ k, (c.closest (some k)).1 = sorted.take k) ∧
    (c.found.map (·.id)).Nodup ∧
    (∀ id, id ∈ c.found.map (·.id) ↔ ∃ n, Act.insert n ∈ acts ∧ n.id = id) ∧
    (∀ n, n ∈ c.found ↔ current acts n.id = some n) ∧
    (∀ id, (current acts id).map (·.address) =
      (acts.findSome? (Act.inserted? id)).map (·.address)) ∧
    (∀ id, c.get? id = current acts id) ∧
    (∀ f : Contact → Contact, (∀ n, (f n).id = n.id) → ∀ id,
      (c.modify id f).found = c.found.map fun n => if n.id = id then f n else n) ∧
    (empty target).additions acts = c.found.length ∧
    c.resorts ≤ (empty target).additions acts := by
  intro c
  have hmemo : c.Memo := (Memo.empty target).after acts
  have hget (id : Id) : c.get? id = current acts id := get?_after _ acts id
  have htarget : c.target = target := target_after _ acts
  have hadditions : (empty target).additions acts = c.found.length :=
    ((length_found_after (empty target) acts).trans (Nat.zero_add _)).symm
  refine ⟨⟨c.ranking, c.ranking_perm, htarget ▸ c.pairwise_ranking, ?_, fun k => ?_⟩, c.nodup_ids, ?_,
    ?_, address_current acts, hget, ?_, hadditions, ?_⟩
  · rw [hmemo.closest_eq, Option.getD_none, ← c.ranking_perm.length_eq, List.take_length]
  · rw [hmemo.closest_eq, Option.getD_some]
  · intro id
    rw [← isSome_get?, hget, isSome_current]
  · intro n
    rw [← hget, get?_eq_some_iff, and_iff_left rfl]
  · intro f hf id
    exact c.found_modify_of_id id hf
  · have hle : c.resorts ≤ c.ordered := (Memo.empty target).resorts_after le_rfl acts
    rw [hadditions]
    exact hle.trans hmemo.le

/-- A contact named by one octet. -/
def spot (b : UInt8) : Contact :=
  { id := ⟨List.replicate 18 0 ++ [b, b], rfl⟩, address := ⟨.v4 10 0 0 b, 7⟩ }

/-- Two candidates, the farther one first, then a token for it and the same one again from elsewhere. -/
def pairActs : List Act :=
  [.insert (spot 2), .insert (spot 1), .closest none, .token (spot 2).id [9],
    .insert { spot 2 with address := (spot 3).address }]

theorem closest_pairActs :
    let c := (empty (spot 0).id).after pairActs
    (c.closest none).1 = [spot 1, { spot 2 with token := some [9] }] ∧
      (c.closest (some 1)).1 = [spot 1] ∧
      c.get? (spot 2).id = some { spot 2 with token := some [9] } ∧
      c.found.length = 2 ∧ c.resorts ≤ 2 := by
  intro c
  obtain ⟨⟨sorted, -, -, hall, hfirst⟩, -, -, -, -, hget, -, hlength, hresorts⟩ :=
    closest_eq_fresh_sort (spot 0).id pairActs
  have hclosest : (c.closest none).1 = [spot 1, { spot 2 with token := some [9] }] := by cbv
  have hadditions : (empty (spot 0).id).additions pairActs = 2 := by cbv
  rw [hadditions] at hlength hresorts
  refine ⟨hclosest, ?_, ?_, hlength.symm, hresorts⟩
  · rw [hfirst 1, ← hall, hclosest]
    rfl
  · rw [hget]
    rfl

end Candidates

end Kademlia.Lookup
