import Kademlia.Proofs.Lookup.Accounting
import Kademlia.Proofs.Lookup.Candidates
import Kademlia.Proofs.Wire.Answer

/-!
# What a finding lookup discovers

At every moment of a run the candidates of a finding lookup are the first contacts of the nodes it
heard of, each with what the node's own answer said. Whoever was passed was asked, and nobody twice.
An exhaustive lookup ends only when all the candidates it considers were asked and have landed.
-/

namespace Kademlia.Lookup

open Wire Exchange

/-! ### The first contact of each node -/

/-- The first contact of each node other than `self`. -/
def firsts (self : Id) : List Contact → List Contact
  | [] => []
  | c :: cs =>
    if c.id = self then firsts self cs
    else c :: (firsts self cs).filter fun d => d.id ≠ c.id

section Firsts

variable {self : Id} {cs : List Contact} {c : Contact} {id : Id}

lemma mem_firsts_iff :
    c ∈ firsts self cs ↔ c.id ≠ self ∧ cs.find? (fun d => d.id = c.id) = some c := by
  induction cs with
  | nil => simp [firsts]
  | cons d cs ih =>
    rw [firsts, List.find?_cons]
    by_cases heq : d.id = c.id
    · rw [decide_eq_true heq]
      by_cases hself : d.id = self
      · rw [if_pos hself, ih]
        have hc : c.id = self := heq.symm.trans hself
        simp [hc]
      · rw [if_neg hself]
        have hc : c.id ≠ self := heq ▸ hself
        simp only [List.mem_cons, List.mem_filter, heq, ne_eq, not_true_eq_false, decide_false,
          Bool.false_eq_true, and_false, or_false, hc, not_false_eq_true, true_and,
          Option.some.injEq]
        exact eq_comm
    · rw [decide_eq_false heq]
      have hne : c ≠ d := fun h => heq (h ▸ rfl)
      have hne' : c.id ≠ d.id := fun h => heq h.symm
      split
      · exact ih
      · simpa [hne, hne'] using ih

lemma mem_of_mem_firsts (h : c ∈ firsts self cs) : c ∈ cs :=
  List.mem_of_find?_eq_some (mem_firsts_iff.1 h).2

lemma ne_self_of_mem_firsts (h : c ∈ firsts self cs) : c.id ≠ self :=
  (mem_firsts_iff.1 h).1

lemma nodup_firsts (self : Id) (cs : List Contact) : ((firsts self cs).map (·.id)).Nodup := by
  induction cs with
  | nil => exact List.nodup_nil
  | cons c cs ih =>
    rw [firsts]
    split
    · exact ih
    · rw [List.map_cons, List.nodup_cons]
      refine ⟨by simp, ?_⟩
      exact ih.sublist (List.filter_sublist.map _)

/-- Another contact counts only if its node was not heard of before. -/
lemma firsts_snoc (self : Id) (cs : List Contact) (c : Contact) :
    firsts self (cs ++ [c]) =
      if c.id = self ∨ c.id ∈ (firsts self cs).map (·.id) then firsts self cs
      else firsts self cs ++ [c] := by
  induction cs with
  | nil => by_cases h : c.id = self <;> simp [firsts, h]
  | cons d cs ih =>
    rw [List.cons_append, firsts, firsts, ih]
    by_cases hself : d.id = self
    · rw [if_pos hself, if_pos hself]
    · rw [if_neg hself, if_neg hself]
      by_cases hc : c.id = d.id
      · have hmem : c.id ∈ (d :: (firsts self cs).filter fun e => e.id ≠ d.id).map (·.id) := by
          simp [hc]
        split
        · rw [if_pos (.inr hmem)]
        · rw [if_pos (.inr hmem)]
          simp [hc]
      · have hiff : (c.id ∈ (d :: (firsts self cs).filter fun e => e.id ≠ d.id).map (·.id)) ↔
            c.id ∈ (firsts self cs).map (·.id) := by
          simp only [List.map_cons, List.mem_cons, hc, false_or, List.mem_map, List.mem_filter]
          constructor
          · rintro ⟨e, ⟨he, -⟩, heq⟩
            exact ⟨e, he, heq⟩
          · rintro ⟨e, he, heq⟩
            exact ⟨e, ⟨he, by simpa [heq] using hc⟩, heq⟩
        simp only [hiff]
        split
        · rfl
        · simp [hc]

lemma State.self_discover (s : State) (c : Contact) : (s.discover c).self = s.self := by
  unfold discover
  split <;> rfl

/-- Discovering a contact takes nothing away. -/
lemma State.found_discover_subset (s : State) (c : Contact) :
    s.candidates.found ⊆ (s.discover c).candidates.found := by
  unfold discover Candidates.insert
  split
  · exact fun _ h => h
  · split
    · exact fun _ h => h
    · exact List.subset_append_left _ _

lemma State.found_discoverAll_subset (s : State) (cs : List Contact) :
    s.candidates.found ⊆ (s.discoverAll cs).candidates.found := by
  induction cs generalizing s with
  | nil => exact fun _ h => h
  | cons c cs ih => exact List.Subset.trans (s.found_discover_subset c) (ih (s.discover c))

/-- Discovering contacts goes on from the first contacts there are. -/
lemma found_discoverAll {s : State} {known : List Contact} {g : Contact → Contact}
    (hid : ∀ c, (g c).id = c.id) (hfound : s.candidates.found = (firsts s.self known).map g)
    (cs : List Contact)
    (hg : ∀ c ∈ cs, c.id ∉ s.candidates.found.map (·.id) → g c = c) :
    (s.discoverAll cs).candidates.found = (firsts s.self (known ++ cs)).map g := by
  induction cs generalizing s known with
  | nil => rw [List.append_nil, ← hfound]; rfl
  | cons c cs ih =>
    have hids : s.candidates.found.map (·.id) = (firsts s.self known).map (·.id) := by
      rw [hfound, List.map_map]
      exact List.map_congr_left fun d _ => hid d
    -- a contact is inserted exactly if it is the first one of its node
    have hone : (s.discover c).candidates.found =
        (firsts (s.discover c).self (known ++ [c])).map g := by
      rw [s.self_discover, firsts_snoc, ← hids]
      unfold State.discover
      by_cases hc : c.id = s.self
      · simp [hc, hfound]
      · rw [if_neg hc]
        by_cases hmem : c.id ∈ s.candidates.found.map (·.id)
        · rw [if_pos (.inr hmem), Candidates.insert_of_mem hmem]
          exact hfound
        · rw [if_neg (not_or.2 ⟨hc, hmem⟩), Candidates.found_insert_of_notMem hmem, List.map_append,
            ← hfound, List.map_singleton, hg c List.mem_cons_self hmem]
    have hrest := ih hone fun d hd hnot => hg d (List.mem_cons_of_mem c hd) fun hmem =>
      hnot (List.map_subset _ (s.found_discover_subset c) hmem)
    rw [s.self_discover, List.append_assoc] at hrest
    exact hrest

lemma State.memo_discoverAll {s : State} (hmemo : s.candidates.Memo) (cs : List Contact) :
    (s.discoverAll cs).candidates.Memo := by
  induction cs generalizing s with
  | nil => exact hmemo
  | cons c cs ih =>
    refine ih (s := s.discover c) ?_
    unfold discover
    split
    · exact hmemo
    · exact hmemo.insert c

lemma State.centre_discoverAll (s : State) (cs : List Contact) :
    (s.discoverAll cs).candidates.target = s.candidates.target := by
  induction cs generalizing s with
  | nil => rfl
  | cons c cs ih =>
    refine (ih (s.discover c)).trans ?_
    unfold discover
    split
    · rfl
    · exact Candidates.target_insert s.candidates c

end Firsts

/-! ### What the answers say -/

/-- What an answer to a finding verb says of its author. -/
def Verb.tell : (v : Verb) → v.Answer → Contact → Contact
  | .findNode, (a : FindNode.Answer), c => c.withToken a.token
  | .findValue, (a : FindValue.Answer), c => (c.withAnnounced a.num).withToken a.token
  | .getValue _, _, c => c
  | .storeValue .., _, c => c

/-- The contacts an answer to a finding verb lists. -/
def Verb.listed : (v : Verb) → v.Answer → List Contact
  | .findNode, (a : FindNode.Answer) => a.nodes
  | .findValue, (a : FindValue.Answer) => a.nodes
  | .getValue _, _ => []
  | .storeValue .., _ => []

/-- The answer a landing brings, unless it comes late. -/
def Landing.answer? (v : Verb) (d : Landing) : Option v.Answer :=
  if d.late then none else (v.parse d.reply).toOption

/-- The contacts a landing lists. -/
def Landing.listed (v : Verb) (d : Landing) : List Contact :=
  match d.answer? v with
  | some answer => v.listed answer
  | none => []

/-- What a landing says of a contact. -/
def Landing.tell (v : Verb) (d : Landing) (c : Contact) : Contact :=
  match d.answer? v with
  | some answer => if c.id = d.flight.contact.id then v.tell answer c else c
  | none => c

/-- The contacts the landings list, the earliest first. -/
def heard (v : Verb) (log : List Landing) : List Contact :=
  log.flatMap (·.listed v)

/-- A contact with all that the landings say of it. -/
def informed (v : Verb) (log : List Landing) (c : Contact) : Contact :=
  log.foldl (fun c d => d.tell v c) c

section Informed

variable {v : Verb} {log : List Landing} {d : Landing} {c : Contact}

@[simp] lemma Verb.id_tell (v : Verb) (answer : v.Answer) (c : Contact) :
    (v.tell answer c).id = c.id := by
  cases v <;> rfl

@[simp] lemma Landing.id_tell (v : Verb) (d : Landing) (c : Contact) : (d.tell v c).id = c.id := by
  unfold Landing.tell
  split
  · split
    · exact v.id_tell _ c
    · rfl
  · rfl

@[simp] lemma heard_snoc (v : Verb) (log : List Landing) (d : Landing) :
    heard v (log ++ [d]) = heard v log ++ d.listed v := by
  simp [heard]

@[simp] lemma informed_snoc (v : Verb) (log : List Landing) (d : Landing) (c : Contact) :
    informed v (log ++ [d]) c = d.tell v (informed v log c) := by
  simp [informed]

@[simp] lemma id_informed (v : Verb) (log : List Landing) (c : Contact) :
    (informed v log c).id = c.id := by
  induction log using List.reverseRecOn with
  | nil => rfl
  | append_singleton log d ih => rw [informed_snoc, Landing.id_tell, ih]

lemma Landing.tell_of_ne (h : d.flight.contact.id ≠ c.id) : d.tell v c = c := by
  unfold Landing.tell
  split
  · exact if_neg fun heq => h heq.symm
  · rfl

lemma Landing.answer?_eq_some_iff {answer : v.Answer} :
    d.answer? v = some answer ↔ d.late = false ∧ v.parse d.reply = .ok answer := by
  unfold Landing.answer?
  cases d.late with
  | true => simp
  | false => cases v.parse d.reply <;> simp [Except.toOption]

/-- Contacts that are listed come without a token. -/
lemma eq_bare_of_mem_heard (hc : c ∈ heard v log) : c = c.bare := by
  obtain ⟨d, -, hc⟩ := List.mem_flatMap.1 hc
  unfold Landing.listed at hc
  split at hc
  · next answer hanswer =>
    obtain ⟨-, hparse⟩ := Landing.answer?_eq_some_iff.1 hanswer
    cases v with
    | findNode => exact (parse_findNode hparse).2 c hc
    | findValue => exact (parse_findValue hparse).2 c hc
    | getValue seen => simp [Verb.listed] at hc
    | storeValue value acknowledged => simp [Verb.listed] at hc
  · simp at hc

/-- Nothing is said of a contact that did not land. -/
lemma informed_of_notMem (h : ∀ d ∈ log, d.flight.contact.id ≠ c.id) : informed v log c = c := by
  induction log using List.reverseRecOn with
  | nil => rfl
  | append_singleton log d ih =>
    rw [informed_snoc, ih fun e he => h e (List.mem_append_left _ he)]
    exact Landing.tell_of_ne (h d (by simp))

/-- A contact that landed carries what that landing says. -/
lemma informed_of_mem (hnodup : (log.map (·.flight.contact.id)).Nodup) (hd : d ∈ log)
    (hid : d.flight.contact.id = c.id) : informed v log c = d.tell v c := by
  induction log using List.reverseRecOn with
  | nil => simp at hd
  | append_singleton log e ih =>
    rw [List.map_append, List.nodup_append] at hnodup
    rw [informed_snoc]
    rcases List.mem_append.1 hd with hd | hd
    · have hne : e.flight.contact.id ≠ c.id := fun heq =>
        hnodup.2.2 _ (List.mem_map.2 ⟨d, hd, hid⟩) _ (by simp) heq.symm
      rw [ih hnodup.1 hd]
      exact Landing.tell_of_ne (by simpa using hne)
    · obtain rfl := List.mem_singleton.1 hd
      rw [informed_of_notMem fun e he heq =>
        hnodup.2.2 _ (List.mem_map.2 ⟨e, he, heq⟩) _ (by simp) hid.symm]

end Informed

end Kademlia.Lookup
