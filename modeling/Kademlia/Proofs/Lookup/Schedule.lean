import Mathlib
import Kademlia.Lookup.Schedule

/-!
# What scheduling does

Each step of the scheduler is described once: what passing candidates does to the state (`Walks`),
the ways in which scheduling can end (`schedule_cases`), and that no step changes what the lookup
was set up with (`State.Alike`).
-/

namespace Kademlia.Lookup

open Wire Exchange

/-! ### What a lookup is set up with -/

/-- Two states of one lookup, as far as it was set up with them. -/
structure State.Alike (s t : State) : Prop where
  target : t.target = s.target
  self : t.self = s.self
  termination : t.termination = s.termination
  k : t.k = s.k
  concurrency : t.concurrency = s.concurrency

namespace State

lemma Alike.refl (s : State) : s.Alike s :=
  ⟨rfl, rfl, rfl, rfl, rfl⟩

lemma Alike.trans {s t u : State} (h : s.Alike t) (h' : t.Alike u) : s.Alike u :=
  ⟨h'.target.trans h.target, h'.self.trans h.self, h'.termination.trans h.termination,
    h'.k.trans h.k, h'.concurrency.trans h.concurrency⟩

/-- Discovering contacts changes the candidates and nothing else. -/
lemma discoverAll_eq (s : State) (cs : List Contact) :
    ∃ candidates, s.discoverAll cs = { s with candidates } := by
  induction cs generalizing s with
  | nil => exact ⟨s.candidates, rfl⟩
  | cons c cs ih =>
    have hone : ∃ candidates, s.discover c = { s with candidates } := by
      unfold discover
      split
      · exact ⟨s.candidates, rfl⟩
      · exact ⟨_, rfl⟩
    obtain ⟨candidates, hc⟩ := hone
    obtain ⟨candidates', hcs⟩ := ih (s.discover c)
    refine ⟨candidates', ?_⟩
    rw [discoverAll, List.foldl_cons]
    change (s.discover c).discoverAll cs = _
    rw [hcs, hc]

lemma alike_discoverAll (s : State) (cs : List Contact) : s.Alike (s.discoverAll cs) := by
  obtain ⟨candidates, h⟩ := s.discoverAll_eq cs
  rw [h]
  exact ⟨rfl, rfl, rfl, rfl, rfl⟩

@[simp] lemma finished_discoverAll (s : State) (cs : List Contact) :
    (s.discoverAll cs).finished = s.finished := by
  obtain ⟨candidates, h⟩ := s.discoverAll_eq cs
  rw [h]

@[simp] lemma answered_discoverAll (s : State) (cs : List Contact) :
    (s.discoverAll cs).answered = s.answered := by
  obtain ⟨candidates, h⟩ := s.discoverAll_eq cs
  rw [h]

@[simp] lemma queried_discoverAll (s : State) (cs : List Contact) :
    (s.discoverAll cs).queried = s.queried := by
  obtain ⟨candidates, h⟩ := s.discoverAll_eq cs
  rw [h]

end State

lemma process_eq (v : Verb) (s : State) (c : Contact) (answer : v.Answer) :
    ∃ candidates, (v.process s c answer).2.1 = { s with candidates } := by
  cases v with
  | findNode => exact State.discoverAll_eq _ _
  | findValue => exact State.discoverAll_eq _ _
  | getValue seen => exact ⟨s.candidates, rfl⟩
  | storeValue value acknowledged => exact ⟨s.candidates, rfl⟩

lemma finish_eq (l : Lookup) :
    ∃ candidates, l.finish.state = { l.state with finished := true, candidates } := by
  unfold finish Verb.finish
  cases l.verb <;> exact ⟨_, rfl⟩

/-- What is requested from a candidate depends on the set-up of the lookup alone. -/
lemma request_congr {s t : State} (h : s.Alike t) (v : Verb) (c : Contact) :
    v.request t c = v.request s c := by
  cases v <;> simp only [Verb.request, h.target, h.termination]

/-! ### Passing candidates -/

/-- The effect of passing some of the candidates `cs`: each is asked or left out once and for all,
and the requests under way are counted. -/
structure Walks (v : Verb) (cs : List Contact) (s t : State) (asks : List Ask) : Prop where
  state : t = { s with
    queried := t.queried
    outstanding := s.outstanding + asks.length
    expected := s.expected + (asks.map (·.expected)).sum }
  mono : ∀ id ∈ s.queried, id ∈ t.queried
  fresh : ∀ a ∈ asks, a.contact.id ∉ s.queried ∧ a.contact.id ∈ t.queried
  distinct : (asks.map (·.contact.id)).Nodup
  asked : ∀ a ∈ asks, a.contact ∈ cs ∧ a.contact.id ≠ s.self ∧
    v.request s a.contact = some (a.request, a.expected)
  passed : ∀ id ∈ t.queried, id ∈ s.queried ∨ (∃ a ∈ asks, a.contact.id = id) ∨
    ∃ c ∈ cs, c.id = id ∧ v.request s c = none

namespace Walks

variable {v : Verb} {cs ds : List Contact} {s t u : State} {asks more : List Ask}

lemma alike (h : Walks v cs s t asks) : s.Alike t := by
  rw [h.state]
  exact ⟨rfl, rfl, rfl, rfl, rfl⟩

lemma refl (v : Verb) (cs : List Contact) (s : State) : Walks v cs s s [] where
  state := rfl
  mono := fun _ h => h
  fresh := by simp
  distinct := List.nodup_nil
  asked := by simp
  passed := fun _ h => .inl h

lemma trans (h : Walks v cs s t asks) (h' : Walks v cs t u more) :
    Walks v cs s u (asks ++ more) where
  state := by
    have hu := h'.state
    rw [h.state] at hu
    rw [hu]
    simp [Nat.add_assoc]
  mono := fun id hid => h'.mono id (h.mono id hid)
  fresh := by
    intro a ha
    rcases List.mem_append.1 ha with ha | ha
    · exact ⟨(h.fresh a ha).1, h'.mono _ (h.fresh a ha).2⟩
    · exact ⟨fun hid => (h'.fresh a ha).1 (h.mono _ hid), (h'.fresh a ha).2⟩
  distinct := by
    rw [List.map_append, List.nodup_append]
    refine ⟨h.distinct, h'.distinct, ?_⟩
    simp only [List.mem_map]
    rintro _ ⟨a, ha, rfl⟩ _ ⟨b, hb, rfl⟩ heq
    exact (h'.fresh b hb).1 (heq ▸ (h.fresh a ha).2)
  asked := by
    intro a ha
    rcases List.mem_append.1 ha with ha | ha
    · exact h.asked a ha
    · obtain ⟨hmem, hself, hrequest⟩ := h'.asked a ha
      rw [request_congr h.alike] at hrequest
      exact ⟨hmem, h.alike.self ▸ hself, hrequest⟩
  passed := by
    intro id hid
    rcases h'.passed id hid with hid | ⟨a, ha, heq⟩ | ⟨c, hc, heq, hnone⟩
    · rcases h.passed id hid with hid | ⟨a, ha, heq⟩ | hnone
      · exact .inl hid
      · exact .inr (.inl ⟨a, List.mem_append_left _ ha, heq⟩)
      · exact .inr (.inr hnone)
    · exact .inr (.inl ⟨a, List.mem_append_right _ ha, heq⟩)
    · exact .inr (.inr ⟨c, hc, heq, by rwa [request_congr h.alike] at hnone⟩)

lemma mono_contacts (h : Walks v cs s t asks) (hsub : ∀ c ∈ cs, c ∈ ds) : Walks v ds s t asks where
  state := h.state
  mono := h.mono
  fresh := h.fresh
  distinct := h.distinct
  asked := fun a ha => ⟨hsub _ (h.asked a ha).1, (h.asked a ha).2⟩
  passed := fun id hid => (h.passed id hid).imp_right
    (.imp_right fun ⟨c, hc, hcase⟩ => ⟨c, hsub c hc, hcase⟩)

end Walks

lemma walks_visit (v : Verb) (s : State) (c : Contact) :
    Walks v [c] s (visit v s c).1 (visit v s c).2 := by
  unfold visit
  split
  · exact .refl v [c] s
  · next hskip =>
    obtain ⟨hid, hself⟩ := not_or.1 hskip
    have hcongr : v.request { s with queried := c.id :: s.queried } c = v.request s c :=
      request_congr (s := s) ⟨rfl, rfl, rfl, rfl, rfl⟩ v c
    dsimp only
    split
    · next hnone =>
      rw [hcongr] at hnone
      refine ⟨rfl, fun id h => List.mem_cons_of_mem _ h, by simp, by simp, by simp, ?_⟩
      intro id h
      rcases List.mem_cons.1 h with rfl | h
      · exact .inr (.inr ⟨c, List.mem_singleton_self c, rfl, hnone⟩)
      · exact .inl h
    · next hsome =>
      rw [hcongr] at hsome
      refine ⟨by simp, fun id h => List.mem_cons_of_mem _ h, ?_, by simp, ?_, ?_⟩
      · simpa using hid
      · simpa using ⟨hself, hsome⟩
      · intro id h
        rcases List.mem_cons.1 h with rfl | h
        · exact .inr (.inl ⟨_, List.mem_singleton_self _, rfl⟩)
        · exact .inl h

lemma walks_walk (v : Verb) (cs : List Contact) (s : State) :
    Walks v cs s (walk v cs s).1 (walk v cs s).2 := by
  induction cs generalizing s with
  | nil => exact .refl v [] s
  | cons c cs ih =>
    have hvisit : Walks v (c :: cs) s (visit v s c).1 (visit v s c).2 :=
      (walks_visit v s c).mono_contacts (by simp)
    simp only [walk]
    split
    · exact hvisit
    · exact hvisit.trans ((ih _).mono_contacts fun d hd => List.mem_cons_of_mem c hd)

lemma length_visit_le (v : Verb) (s : State) (c : Contact) : (visit v s c).2.length ≤ 1 := by
  unfold visit
  split
  · simp
  · dsimp only
    split <;> simp

/-- With room for a request, passing candidates keeps within the room there is. -/
lemma outstanding_walk_le (v : Verb) (cs : List Contact) {s : State}
    (h : s.outstanding < s.concurrency) : (walk v cs s).1.outstanding ≤ s.concurrency := by
  induction cs generalizing s with
  | nil => exact h.le
  | cons c cs ih =>
    have hvisit := walks_visit v s c
    have hconcurrency := hvisit.alike.concurrency
    simp only [walk]
    split
    · rw [hvisit.state]
      have := length_visit_le v s c
      dsimp only
      omega
    · next hbusy =>
      have hroom : (visit v s c).1.outstanding < (visit v s c).1.concurrency := by
        simp only [State.isBusy, Bool.or_eq_true, decide_eq_true_eq, not_or] at hbusy
        omega
      exact hconcurrency ▸ ih hroom

lemma mem_queried_visit (v : Verb) (s : State) (c : Contact) :
    c.id ∈ (visit v s c).1.queried ∨ c.id = s.self := by
  unfold visit
  split
  · assumption
  · dsimp only
    split <;> simp

/-- If requests are still allowed at the end then no candidate was left unpassed. -/
lemma mem_queried_walk {v : Verb} {cs : List Contact} {s : State}
    (h : (walk v cs s).1.isBusy v.resultCount = false) :
    ∀ c ∈ cs, c.id ∈ (walk v cs s).1.queried ∨ c.id = s.self := by
  induction cs generalizing s with
  | nil => simp
  | cons d cs ih =>
    have hd := mem_queried_visit v s d
    have hself := (walks_visit v s d).alike.self
    simp only [walk] at h ⊢
    split at h
    · next hbusy => simp [hbusy] at h
    · next hbusy =>
      rw [if_neg hbusy]
      intro c hc
      rcases List.mem_cons.1 hc with rfl | hc
      · exact hd.imp_left ((walks_walk v cs _).mono _)
      · exact hself ▸ ih h c hc

/-! ### Scheduling -/

/-- The candidates that are considered next. -/
def next (l : Lookup) : List Contact :=
  (l.state.candidates.closest (if l.verb.isFinding then some l.state.k else none)).1

/-- The state in which the candidates are considered, their order computed. -/
def ordered (l : Lookup) : State :=
  { l.state with candidates := l.state.candidates.sort }

lemma walks_advance (l : Lookup) :
    Walks l.verb l.next l.ordered l.advance.1.state l.advance.2 :=
  walks_walk l.verb l.next l.ordered

lemma alike_ordered (l : Lookup) : l.state.Alike l.ordered :=
  ⟨rfl, rfl, rfl, rfl, rfl⟩

lemma finished_advance (l : Lookup) : l.advance.1.state.finished = l.state.finished := by
  rw [(walks_advance l).state]
  rfl

lemma candidates_advance (l : Lookup) :
    l.advance.1.state.candidates = l.state.candidates.sort := by
  rw [(walks_advance l).state]
  rfl

lemma alike_advance (l : Lookup) : l.state.Alike l.advance.1.state :=
  (alike_ordered l).trans (walks_advance l).alike

lemma alike_finish (l : Lookup) : l.state.Alike l.finish.state := by
  obtain ⟨candidates, h⟩ := finish_eq l
  rw [h]
  exact ⟨rfl, rfl, rfl, rfl, rfl⟩

lemma finished_finish (l : Lookup) : l.finish.state.finished = true := by
  obtain ⟨candidates, h⟩ := finish_eq l
  rw [h]

/-- A number that a word of 64 bits holds, or that does not exceed the budget, is compared as it is. -/
lemma Termination.mod_wordSize {budget sum : Nat} (h : sum < UInt64.size ∨ sum ≤ budget) :
    sum % wordSize budget = sum := by
  refine Nat.mod_eq_of_lt (lt_max_iff.2 ?_)
  exact h.imp_right Nat.lt_succ_of_le

lemma Termination.reachedBy_eq {t : Termination} {budget : Nat} (h : t.budget = some budget) (sum : Nat) :
    t.reachedBy sum = decide (budget ≤ sum % wordSize budget) := by
  rw [reachedBy, h]

/-- No more of the number of results expected matters than what a word holds of it. -/
theorem State.budgetReached_congr {s : State} {budget expected : Nat}
    (h : s.termination.budget = some budget)
    (hword : expected ≡ s.expected [MOD Termination.wordSize budget]) (results : Nat) :
    ({ s with expected } : State).budgetReached results = s.budgetReached results := by
  have hsum := hword.add_left results
  rw [Nat.ModEq] at hsum
  rw [budgetReached, budgetReached, Termination.reachedBy_eq h, Termination.reachedBy_eq h, hsum]

/-- A sum that does not reach the budget, and does not exceed it either, is below it. -/
lemma Termination.lt_of_not_reachedBy {t : Termination} {budget sum : Nat} (h : t.budget = some budget)
    (hle : sum ≤ budget) (hfew : t.reachedBy sum = false) : sum < budget := by
  rw [reachedBy_eq h, mod_wordSize (.inr hle)] at hfew
  exact Nat.not_le.1 (of_decide_eq_false hfew)

/-- Without a budget no number of results is enough. -/
lemma not_reached_of_unbounded {l : Lookup} (h : l.state.termination.budget = none) (results : Nat) :
    l.state.budgetReached results = false ∧ l.isMet = false := by
  simp [State.budgetReached, Termination.reachedBy, isMet, Termination.isMet, h]

/-- A lookup under way is ended because its termination is met, waits because the requests under way
should bring enough, or considers further candidates and is ended if nothing is under way then. -/
lemma schedule_cases {l : Lookup} (h : l.state.finished = false) :
    (l.isMet = true ∧ schedule l = (l.finish, [])) ∨
    (l.isMet = false ∧ l.state.budgetReached l.verb.resultCount = true ∧ schedule l = (l, [])) ∨
    (l.isMet = false ∧ l.state.budgetReached l.verb.resultCount = false ∧
      (l.advance.1.state.outstanding = 0 ∧ schedule l = (l.advance.1.finish, l.advance.2) ∨
        l.advance.1.state.outstanding ≠ 0 ∧ schedule l = l.advance)) := by
  by_cases hmet : l.isMet = true
  · refine .inl ⟨hmet, ?_⟩
    simp [schedule, h, hmet, finished_finish]
  · rw [Bool.not_eq_true] at hmet
    by_cases hbudget : l.state.budgetReached l.verb.resultCount = true
    · refine .inr (.inl ⟨hmet, hbudget, ?_⟩)
      simp [schedule, h, hmet, hbudget]
    · rw [Bool.not_eq_true] at hbudget
      refine .inr (.inr ⟨hmet, hbudget, ?_⟩)
      simp only [schedule, h, hmet, hbudget, Bool.not_false, Bool.and_false, Bool.false_eq_true,
        if_false, Bool.or_false]
      by_cases hzero : l.advance.1.state.outstanding = 0
      · exact .inl ⟨hzero, by rw [if_pos hzero]⟩
      · exact .inr ⟨hzero, by rw [if_neg hzero]⟩

lemma alike_schedule {l : Lookup} (h : l.state.finished = false) :
    l.state.Alike (schedule l).1.state := by
  rcases schedule_cases h with ⟨-, heq⟩ | ⟨-, -, heq⟩ | ⟨-, -, ⟨-, heq⟩ | ⟨-, heq⟩⟩ <;> rw [heq]
  · exact alike_finish l
  · exact .refl _
  · exact (alike_advance l).trans (alike_finish _)
  · exact alike_advance l

/-! ### Taking in how a request fared -/

/-- The lookup without a request that is no longer under way. -/
def drop (l : Lookup) (f : Flight) : Lookup :=
  { l with state := { l.state with
      outstanding := l.state.outstanding - 1
      expected := l.state.expected - f.expected } }

/-- The lookup with the answer to a request taken in, before it is scheduled again. -/
def learn (l : Lookup) (f : Flight) (answer : l.verb.Answer) : Lookup :=
  let (verb, state, reports) := l.verb.process
    { (l.drop f).state with answered := f.contact.id :: l.state.answered } f.contact answer
  { l with verb, state, reports := l.reports ++ reports }

/-- Learning changes the candidates, and marks the request as answered. -/
lemma learn_eq (l : Lookup) (f : Flight) (answer : l.verb.Answer) :
    ∃ candidates, (l.learn f answer).state = { (l.drop f).state with
      answered := f.contact.id :: l.state.answered
      candidates } :=
  process_eq l.verb _ f.contact answer

lemma alike_learn (l : Lookup) (f : Flight) (answer : l.verb.Answer) :
    l.state.Alike (l.learn f answer).state := by
  obtain ⟨candidates, h⟩ := learn_eq l f answer
  rw [h]
  exact ⟨rfl, rfl, rfl, rfl, rfl⟩

lemma finished_learn (l : Lookup) (f : Flight) (answer : l.verb.Answer) :
    (l.learn f answer).state.finished = l.state.finished := by
  obtain ⟨candidates, h⟩ := learn_eq l f answer
  rw [h]
  rfl

lemma settle_error {l : Lookup} (hl : l.state.finished = false) (f : Flight) (e : CallError) :
    l.settle f (.error e) =
      ((schedule (l.drop f)).1, (schedule (l.drop f)).2, .failed f.contact) := by
  simp [settle, hl, drop]

lemma settle_ok {l : Lookup} {f : Flight}
    (hnew : ¬ (l.state.finished = true ∨ f.contact.id ∈ l.state.answered))
    (answer : l.verb.Answer) :
    l.settle f (.ok answer) =
      ((schedule (l.learn f answer)).1, (schedule (l.learn f answer)).2, .answered f.contact) := by
  unfold settle
  dsimp only
  rw [if_neg hnew]
  rfl

/-- A reply to a lookup that has ended changes nothing. Another one is taken off the accounts, an
answer is learned from, and the lookup is scheduled again. -/
lemma settle_cases {l : Lookup} {f : Flight} (hf : f.contact.id ∉ l.state.answered)
    (result : Except CallError l.verb.Answer) :
    (l.state.finished = true ∧ (l.settle f result).1 = l ∧ (l.settle f result).2.1 = []) ∨
    (l.state.finished = false ∧ (∃ e, result = .error e) ∧
      (l.settle f result).1 = (schedule (l.drop f)).1 ∧
      (l.settle f result).2.1 = (schedule (l.drop f)).2) ∨
    (l.state.finished = false ∧ ∃ answer, result = .ok answer ∧
      (l.settle f result).1 = (schedule (l.learn f answer)).1 ∧
      (l.settle f result).2.1 = (schedule (l.learn f answer)).2) := by
  cases hl : l.state.finished with
  | true =>
    refine .inl ⟨rfl, ?_⟩
    cases result <;> simp [settle, hl]
  | false =>
    cases result with
    | error e =>
      refine .inr (.inl ⟨rfl, ⟨e, rfl⟩, ?_⟩)
      rw [settle_error hl]
      exact ⟨rfl, rfl⟩
    | ok answer =>
      refine .inr (.inr ⟨rfl, answer, rfl, ?_⟩)
      rw [settle_ok (by simp [hl, hf])]
      exact ⟨rfl, rfl⟩

lemma alike_drop (l : Lookup) (f : Flight) : l.state.Alike (l.drop f).state :=
  ⟨rfl, rfl, rfl, rfl, rfl⟩

end Kademlia.Lookup
