import Kademlia.Proofs.Lookup.Run

/-!
# Accounting of requests

As long as a lookup is under way its counters agree with the requests under way, there is at least
one of these, and there are never more than its concurrency allows.
-/

namespace Kademlia.Lookup

open Wire Exchange

/-- The counters of a lookup agree with its requests under way, each to another candidate that was
passed and has not answered. -/
structure Accounted (l : Lookup) (fs : List Flight) : Prop where
  bounded : fs.length ≤ l.state.concurrency
  distinct : (fs.map (·.contact.id)).Nodup
  queried : ∀ f ∈ fs, f.contact.id ∈ l.state.queried
  unanswered : ∀ f ∈ fs, f.contact.id ∉ l.state.answered
  answered : ∀ id ∈ l.state.answered, id ∈ l.state.queried
  outstanding : l.state.finished = false → l.state.outstanding = fs.length
  expected : l.state.finished = false → l.state.expected = (fs.map (·.expected)).sum

/-- The accounts of a lookup that waits for something unless it has ended. -/
structure Running (l : Lookup) (fs : List Flight) : Prop extends Accounted l fs where
  waiting : l.state.finished = false → fs ≠ []

/-- The accounts of a lookup that is to be scheduled: it is under way, with the settings of `start`,
and there is room for a request. -/
structure Ready (start : State) (l : Lookup) (fs : List Flight) : Prop extends Accounted l fs where
  alike : start.Alike l.state
  going : l.state.finished = false
  room : fs.length < l.state.concurrency

section Makes

variable {new : List Flight} {asks : List Ask}

lemma map_id_of_makes (h : List.Forall₂ Flight.Makes new asks) :
    new.map (·.contact.id) = asks.map (·.contact.id) := by
  induction h with
  | nil => rfl
  | cons hmakes _ ih => rw [List.map_cons, List.map_cons, ih, hmakes.contact]

lemma map_expected_of_makes (h : List.Forall₂ Flight.Makes new asks) :
    new.map (·.expected) = asks.map (·.expected) := by
  induction h with
  | nil => rfl
  | cons hmakes _ ih => rw [List.map_cons, List.map_cons, ih, hmakes.expected]

lemma exists_ask_of_makes (h : List.Forall₂ Flight.Makes new asks) {f : Flight} (hf : f ∈ new) :
    ∃ a ∈ asks, f.Makes a := by
  induction h with
  | nil => simp at hf
  | @cons g a _ _ hmakes _ ih =>
    rcases List.mem_cons.1 hf with rfl | hf
    · exact ⟨a, List.mem_cons_self, hmakes⟩
    · obtain ⟨b, hb, hmakes'⟩ := ih hf
      exact ⟨b, List.mem_cons_of_mem _ hb, hmakes'⟩

lemma exists_flight_of_makes (h : List.Forall₂ Flight.Makes new asks) {a : Ask} (ha : a ∈ asks) :
    ∃ f ∈ new, f.Makes a := by
  induction h with
  | nil => simp at ha
  | @cons f b _ _ hmakes _ ih =>
    rcases List.mem_cons.1 ha with rfl | ha
    · exact ⟨f, List.mem_cons_self, hmakes⟩
    · obtain ⟨g, hg, hmakes'⟩ := ih ha
      exact ⟨g, List.mem_cons_of_mem _ hg, hmakes'⟩

end Makes

section Accounts

variable {start : State} {l : Lookup} {fs new others : List Flight} {f : Flight}

lemma Accounted.perm {fs' : List Flight} (h : Accounted l fs) (hperm : fs.Perm fs') :
    Accounted l fs' where
  bounded := hperm.length_eq ▸ h.bounded
  distinct := (hperm.map (·.contact.id)).nodup_iff.1 h.distinct
  queried := fun f hf => h.queried f (hperm.symm.subset hf)
  unanswered := fun f hf => h.unanswered f (hperm.symm.subset hf)
  answered := h.answered
  outstanding := fun hl => (h.outstanding hl).trans hperm.length_eq
  expected := fun hl => (h.expected hl).trans (hperm.map (·.expected)).sum_eq

lemma Accounted.finish (h : Accounted l fs) : Accounted l.finish fs := by
  obtain ⟨candidates, heq⟩ := finish_eq l
  refine ⟨?_, h.distinct, ?_, ?_, ?_, ?_, ?_⟩ <;> rw [heq]
  · exact h.bounded
  · exact h.queried
  · exact h.unanswered
  · exact h.answered
  all_goals exact fun hl => absurd hl (by simp)

/-- Whoever is asked was not passed before. -/
lemma nodup_advance {ids : List Id} (hdistinct : ids.Nodup)
    (hqueried : ∀ id ∈ ids, id ∈ l.state.queried)
    (hnew : List.Forall₂ Flight.Makes new l.advance.2) :
    (ids ++ new.map (·.contact.id)).Nodup := by
  have hwalks := walks_advance l
  rw [map_id_of_makes hnew]
  refine List.nodup_append.2 ⟨hdistinct, hwalks.distinct, ?_⟩
  rintro id hid _ hnewId rfl
  obtain ⟨a, ha, rfl⟩ := List.mem_map.1 hnewId
  exact (hwalks.fresh a ha).1 (hqueried _ hid)

/-- Requests made while there is room are added to the accounts. -/
lemma Ready.advance (h : Ready start l fs) (hnew : List.Forall₂ Flight.Makes new l.advance.2) :
    Accounted l.advance.1 (fs ++ new) ∧
      l.advance.1.state.outstanding = (fs ++ new).length := by
  have hwalks := walks_advance l
  have hstate := hwalks.state
  -- the walk counts the requests it makes, and `new` has one flight for each
  have hlength : l.advance.1.state.outstanding = (fs ++ new).length := by
    rw [hstate, List.length_append, hnew.length_eq]
    exact congrArg (· + _) (h.outstanding h.going)
  have hexpected : l.advance.1.state.expected = ((fs ++ new).map (·.expected)).sum := by
    rw [hstate, List.map_append, List.sum_append, map_expected_of_makes hnew]
    exact congrArg (· + _) (h.expected h.going)
  have hanswered : l.advance.1.state.answered = l.state.answered := by
    rw [hstate]
    rfl
  have hask {f : Flight} (hf : f ∈ new) :
      f.contact.id ∉ l.state.queried ∧ f.contact.id ∈ l.advance.1.state.queried := by
    obtain ⟨a, ha, hmakes⟩ := exists_ask_of_makes hnew hf
    exact hmakes.contact ▸ hwalks.fresh a ha
  refine ⟨⟨?_, ?_, ?_, ?_, ?_, fun _ => hlength, fun _ => hexpected⟩, hlength⟩
  · rw [← hlength, hwalks.alike.concurrency]
    refine outstanding_walk_le l.verb l.next ?_
    exact (h.outstanding h.going).trans_lt h.room
  · rw [List.map_append]
    exact nodup_advance h.distinct (List.forall_mem_map.2 h.queried) hnew
  · intro f hf
    rcases List.mem_append.1 hf with hf | hf
    · exact hwalks.mono _ (h.queried f hf)
    · exact (hask hf).2
  · rw [hanswered]
    intro f hf
    rcases List.mem_append.1 hf with hf | hf
    · exact h.unanswered f hf
    · exact fun hid => (hask hf).1 (h.answered _ hid)
  · rw [hanswered]
    exact fun id hid => hwalks.mono id (h.answered id hid)

/-- When nothing is under way after passing candidates, none of them was left unpassed. -/
lemma Ready.mem_queried_of_idle (h : Ready start l fs)
    (hbudget : l.state.budgetReached l.verb.resultCount = false)
    (hnew : List.Forall₂ Flight.Makes new l.advance.2) (hidle : fs ++ new = []) {c : Contact}
    (hc : c ∈ l.next) (hself : c.id ≠ l.state.self) : c.id ∈ l.advance.1.state.queried := by
  obtain ⟨haccounted, houtstanding⟩ := h.advance hnew
  rw [hidle] at haccounted houtstanding
  obtain ⟨rfl, rfl⟩ := List.append_eq_nil_iff.1 hidle
  have hexpected : l.advance.1.state.expected = l.state.expected :=
    (haccounted.expected ((finished_advance l).trans h.going)).trans (h.expected h.going).symm
  have hfree : (walk l.verb l.next l.ordered).1.isBusy l.verb.resultCount = false := by
    change l.advance.1.state.isBusy l.verb.resultCount = false
    rw [State.budgetReached] at hbudget
    rw [State.isBusy, State.budgetReached, houtstanding, hexpected, (alike_advance l).concurrency,
      (alike_advance l).termination, hbudget, Bool.or_false]
    exact decide_eq_false (Nat.not_le.2 h.room)
  exact (mem_queried_walk hfree c hc).resolve_right hself

/-- A lookup that waits for a budget waits for a request that should bring something. -/
lemma Ready.ne_nil_of_budget (h : Ready start l fs) (hmet : l.isMet = false)
    (hbudget : l.state.budgetReached l.verb.resultCount = true) : fs ≠ [] := by
  rintro rfl
  have hzero : l.state.expected = 0 := h.expected h.going
  simp only [isMet, Termination.isMet] at hmet
  simp only [State.budgetReached, hzero, Nat.add_zero] at hbudget
  cases hb : l.state.termination.budget with
  | none => simp [Termination.reachedBy, hb] at hbudget
  | some budget =>
    rw [Termination.reachedBy_eq hb, decide_eq_true_eq] at hbudget
    have henough : budget ≤ l.verb.resultCount := hbudget.trans (Nat.mod_le _ _)
    simp [hb, henough] at hmet

/-- A lookup that is scheduled is ended because its termination is met, waits because the requests
under way should bring enough, or asks further candidates and is ended if nothing is under way
then. -/
lemma Ready.schedule_cases (h : Ready start l fs)
    (hnew : List.Forall₂ Flight.Makes new (schedule l).2) :
    (l.isMet = true ∧ (schedule l).1 = l.finish ∧ fs ++ new = fs) ∨
    (l.isMet = false ∧ l.state.budgetReached l.verb.resultCount = true ∧ (schedule l).1 = l ∧
      fs ++ new = fs) ∨
    (l.isMet = false ∧ l.state.budgetReached l.verb.resultCount = false ∧
      List.Forall₂ Flight.Makes new l.advance.2 ∧
      (fs ++ new = [] ∧ (schedule l).1 = l.advance.1.finish ∨
        fs ++ new ≠ [] ∧ (schedule l).1 = l.advance.1)) := by
  have hnone (hnew : List.Forall₂ Flight.Makes new []) : fs ++ new = fs := by
    rw [List.forall₂_nil_right_iff.1 hnew, List.append_nil]
  have hidle (hnew : List.Forall₂ Flight.Makes new l.advance.2) :
      l.advance.1.state.outstanding = 0 ↔ fs ++ new = [] := by
    rw [(h.advance hnew).2, List.length_eq_zero_iff]
  rcases Lookup.schedule_cases h.going with
    ⟨hmet, heq⟩ | ⟨hmet, hbudget, heq⟩ | ⟨hmet, hbudget, ⟨hzero, heq⟩ | ⟨hsome, heq⟩⟩
  all_goals rw [heq] at hnew ⊢
  · exact .inl ⟨hmet, rfl, hnone hnew⟩
  · exact .inr (.inl ⟨hmet, hbudget, rfl, hnone hnew⟩)
  · exact .inr (.inr ⟨hmet, hbudget, hnew, .inl ⟨(hidle hnew).1 hzero, rfl⟩⟩)
  · exact .inr (.inr ⟨hmet, hbudget, hnew, .inr ⟨fun hnil => hsome ((hidle hnew).2 hnil), rfl⟩⟩)

/-- Without a budget a lookup is ended only when nothing is under way. -/
lemma Ready.schedule_cases_of_unbounded (h : Ready start l fs)
    (hunbounded : start.termination.budget = none)
    (hnew : List.Forall₂ Flight.Makes new (schedule l).2) :
    l.state.budgetReached l.verb.resultCount = false ∧ List.Forall₂ Flight.Makes new l.advance.2 ∧
      (fs ++ new = [] ∧ (schedule l).1 = l.advance.1.finish ∨
        fs ++ new ≠ [] ∧ (schedule l).1 = l.advance.1) := by
  rw [← h.alike.termination] at hunbounded
  obtain ⟨hfew, hunmet⟩ := not_reached_of_unbounded hunbounded l.verb.resultCount
  rcases h.schedule_cases hnew with ⟨hmet, -⟩ | ⟨-, hbudget, -⟩ | ⟨-, hbudget, hcases⟩
  · exact absurd (hunmet.symm.trans hmet) (by simp)
  · exact absurd (hfew.symm.trans hbudget) (by simp)
  · exact ⟨hbudget, hcases⟩

/-- Scheduling a lookup with room for a request leaves it with requests under way, or ends it. -/
lemma Ready.schedule (h : Ready start l fs) (hnew : List.Forall₂ Flight.Makes new (schedule l).2) :
    Running (schedule l).1 (fs ++ new) := by
  have hended {l' : Lookup} (h' : Accounted l' (fs ++ new)) : Running l'.finish (fs ++ new) :=
    ⟨h'.finish, fun hf => absurd ((finished_finish l').symm.trans hf) (by simp)⟩
  rcases h.schedule_cases hnew with ⟨-, heq, hsame⟩ | ⟨hmet, hbudget, heq, hsame⟩ |
    ⟨-, -, hnew, ⟨-, heq⟩ | ⟨hsome, heq⟩⟩
  all_goals rw [heq]
  · exact hended (hsame.symm ▸ h.toAccounted)
  · rw [hsame]
    exact ⟨h.toAccounted, fun _ => h.ne_nil_of_budget hmet hbudget⟩
  · exact hended (h.advance hnew).1
  · exact ⟨(h.advance hnew).1, fun _ => hsome⟩

/-- A request that lands is taken off the accounts. -/
lemma Accounted.drop (h : Accounted l (f :: others)) : Accounted (l.drop f) others where
  bounded := (Nat.le_succ _).trans h.bounded
  distinct := (List.nodup_cons.1 h.distinct).2
  queried := fun g hg => h.queried g (List.mem_cons_of_mem f hg)
  unanswered := fun g hg => h.unanswered g (List.mem_cons_of_mem f hg)
  answered := h.answered
  outstanding := fun hl => by
    have houtstanding := h.outstanding hl
    rw [List.length_cons] at houtstanding
    simp [Lookup.drop, houtstanding]
  expected := fun hl => by
    have hexpected := h.expected hl
    rw [List.map_cons, List.sum_cons] at hexpected
    simp [Lookup.drop, hexpected]

lemma Accounted.learn (h : Accounted l (f :: others)) (answer : l.verb.Answer) :
    Accounted (l.learn f answer) others := by
  obtain ⟨candidates, heq⟩ := learn_eq l f answer
  have hdrop := h.drop
  refine ⟨?_, hdrop.distinct, ?_, ?_, ?_, ?_, ?_⟩ <;> rw [heq]
  · exact hdrop.bounded
  · exact hdrop.queried
  · intro g hg hid
    rcases List.mem_cons.1 hid with hid | hid
    · -- every request under way is to another candidate
      exact (List.nodup_cons.1 h.distinct).1 (List.mem_map.2 ⟨g, hg, hid⟩)
    · exact hdrop.unanswered g hg hid
  · intro id hid
    rcases List.mem_cons.1 hid with rfl | hid
    · exact h.queried f List.mem_cons_self
    · exact hdrop.answered id hid
  · exact hdrop.outstanding
  · exact hdrop.expected

/-- A request that fared ill makes room for another one. -/
lemma Running.drop (h : Running l (f :: others)) (halike : start.Alike l.state)
    (hl : l.state.finished = false) : Ready start (l.drop f) others :=
  ⟨h.toAccounted.drop, halike.trans (alike_drop l f), hl, h.bounded⟩

/-- So does one that was answered. -/
lemma Running.learn (h : Running l (f :: others)) (halike : start.Alike l.state)
    (hl : l.state.finished = false) (answer : l.verb.Answer) :
    Ready start (l.learn f answer) others := by
  have hlearn := alike_learn l f answer
  refine ⟨h.toAccounted.learn answer, halike.trans hlearn, (finished_learn l f answer).trans hl, ?_⟩
  rw [hlearn.concurrency]
  exact h.bounded

/-- A lookup that has ended does not mind its counters. -/
lemma Running.late (h : Running l (f :: others)) (hl : l.state.finished = true) :
    Running l others := by
  have hdrop := h.toAccounted.drop
  refine ⟨⟨hdrop.bounded, hdrop.distinct, hdrop.queried, hdrop.unanswered, h.answered, ?_, ?_⟩, ?_⟩
  all_goals exact fun hopen => absurd (hl.symm.trans hopen) (by simp)

end Accounts

/-! ### Runs -/

section Runs

variable {verb : Verb} {target self : Id} {termination : Termination} {k concurrency : Nat}
  {seeds : List Contact} {log : List Landing} {s : Sweep}

/-- Before anything is asked there is room for a request. -/
lemma ready_discoverAll (verb : Verb) (target self : Id) (termination : Termination)
    (k concurrency : Nat) (seeds : List Contact) :
    Ready (.new target self termination k concurrency)
      (.new verb ((State.new target self termination k concurrency).discoverAll seeds)) [] := by
  have halike := (State.new target self termination k concurrency).alike_discoverAll seeds
  have hroom : 0 < (State.new target self termination k concurrency).concurrency :=
    Nat.lt_of_lt_of_le Nat.zero_lt_one (le_max_right _ _)
  have haccounted : Accounted
      (.new verb ((State.new target self termination k concurrency).discoverAll seeds)) [] := by
    obtain ⟨candidates, heq⟩ :=
      (State.new target self termination k concurrency).discoverAll_eq seeds
    rw [heq]
    refine ⟨Nat.zero_le _, List.nodup_nil, ?_, ?_, ?_, fun _ => rfl, fun _ => rfl⟩
    all_goals simp [State.new, new]
  exact ⟨haccounted, halike, State.finished_discoverAll _ seeds,
    hroom.trans_le halike.concurrency.ge⟩

/-- What scheduling makes of what holds before it, at the launch and after each request that lands in
time, holds in every sweep of a run if a late request does not matter. -/
theorem Passes.induct_scheduled {P Q : List Landing → Lookup → List Flight → Prop}
    (congr : ∀ log l flights fs fs', P log l fs → fs.Perm fs' → P log { l with flights } fs')
    (start : Q [] (.new verb ((State.new target self termination k concurrency).discoverAll seeds))
      [])
    (schedule : ∀ log l fs new, Ready (.new target self termination k concurrency) l fs →
      Q log l fs → List.Forall₂ Flight.Makes new (schedule l).2 → P log (schedule l).1 (fs ++ new))
    (late : ∀ log l f others reply, l.state.finished = true → P log l (f :: others) →
      P (log ++ [⟨f, reply, true⟩]) l others)
    (drop : ∀ log l f others reply, (State.new target self termination k concurrency).Alike l.state →
      l.state.finished = false → P log l (f :: others) → (∃ e, l.verb.parse reply = .error e) →
      Q (log ++ [⟨f, reply, false⟩]) (l.drop f) others)
    (learn : ∀ log l f others reply answer,
      (State.new target self termination k concurrency).Alike l.state →
      l.state.finished = false → P log l (f :: others) → l.verb.parse reply = .ok answer →
      (∀ r, reply = .ok r → authorOf r.payload = some f.contact.id) →
      Q (log ++ [⟨f, reply, false⟩]) (l.learn f answer) others)
    (h : Passes (.new verb (.new target self termination k concurrency)) seeds log s) :
    Running s.lookup (s.kept ++ s.rest) ∧
      (State.new target self termination k concurrency).Alike s.lookup.state ∧
      P log s.lookup (s.kept ++ s.rest) := by
  have hschedule {log : List Landing} {l : Lookup} {fs new : List Flight}
      (hready : Ready (.new target self termination k concurrency) l fs) (hQ : Q log l fs)
      (hnew : List.Forall₂ Flight.Makes new (Lookup.schedule l).2) :
      Running (Lookup.schedule l).1 (fs ++ new) ∧
        (State.new target self termination k concurrency).Alike (Lookup.schedule l).1.state ∧
        P log (Lookup.schedule l).1 (fs ++ new) :=
    ⟨hready.schedule hnew, hready.alike.trans (alike_schedule hready.going),
      schedule log l fs new hready hQ hnew⟩
  refine (Passes.induct (P := fun log l fs => Running l fs ∧
    (State.new target self termination k concurrency).Alike l.state ∧ P log l fs) ?_ ?_ ?_ h).1
  · intro log l flights fs fs' ⟨hrunning, halike, hP⟩ hperm
    have haccounted := hrunning.toAccounted.perm hperm
    refine ⟨⟨⟨haccounted.bounded, haccounted.distinct, haccounted.queried, haccounted.unanswered,
      haccounted.answered, haccounted.outstanding, haccounted.expected⟩, ?_⟩, halike,
      congr log l flights fs fs' hP hperm⟩
    intro hl hnil
    exact hrunning.waiting hl (List.perm_nil.1 (hnil ▸ hperm))
  · intro new hnew
    exact hschedule (ready_discoverAll verb target self termination k concurrency seeds) start hnew
  · intro log l f others new reply ⟨hrunning, halike, hP⟩ hauthor hnew
    rcases settle_cases (hrunning.unanswered f List.mem_cons_self) (l.verb.parse reply) with
      ⟨hl, hsame, hnone⟩ | ⟨hl, hparse, hlookup, hasks⟩ | ⟨hl, answer, hparse, hlookup, hasks⟩
    · rw [hnone] at hnew
      rw [hsame, hl, List.forall₂_nil_right_iff.1 hnew, List.append_nil]
      exact ⟨hrunning.late hl, halike, late log l f others reply hl hP⟩
    · rw [hasks] at hnew
      rw [hlookup, hl]
      exact hschedule (hrunning.drop halike hl) (drop log l f others reply halike hl hP hparse) hnew
    · rw [hasks] at hnew
      rw [hlookup, hl]
      exact hschedule (hrunning.learn halike hl answer)
        (learn log l f others reply answer halike hl hP hparse hauthor) hnew

/-- A lookup is accounted for in every sweep of a run. -/
lemma Passes.running
    (h : Passes (.new verb (.new target self termination k concurrency)) seeds log s) :
    Running s.lookup (s.kept ++ s.rest) ∧
      (State.new target self termination k concurrency).Alike s.lookup.state := by
  obtain ⟨hrunning, halike, -⟩ := h.induct_scheduled (P := fun _ _ _ => True)
    (Q := fun _ _ _ => True) (fun _ _ _ _ _ _ _ => trivial) trivial
    (fun _ _ _ _ _ _ _ => trivial) (fun _ _ _ _ _ _ _ => trivial)
    (fun _ _ _ _ _ _ _ _ _ => trivial) (fun _ _ _ _ _ _ _ _ _ _ _ => trivial)
  exact ⟨hrunning, halike⟩

end Runs

/-- After the launch and after each tick the counters of a lookup that has not ended agree with its
requests under way, of which there is one at least. There are never more of them than may be, and
taking one off the counters never takes off more than they hold. -/
theorem accounts_for_flights (verb : Verb) (target self : Id) (termination : Termination)
    (k concurrency : Nat) (seeds : List Contact) :
    (∀ (site : Site) (m : Multiplexer) (ticks : List (Site × Multiplexer)),
      let start := (new verb (.new target self termination k concurrency)).launch site seeds m
      let l := ticks.foldl (fun l t => (l.tick t.1 t.2).1) start.1
      l.flights.length ≤ max concurrency 1 ∧
      (l.state.finished = false →
        l.state.outstanding = l.flights.length ∧
        l.state.expected = (l.flights.map (·.expected)).sum ∧
        l.flights ≠ [])) ∧
    ∀ log s, Passes (new verb (.new target self termination k concurrency)) seeds log s →
      (s.kept ++ s.rest).length ≤ max concurrency 1 ∧
      (s.lookup.state.finished = false → ∀ f ∈ s.kept ++ s.rest,
        1 ≤ s.lookup.state.outstanding ∧ f.expected ≤ s.lookup.state.expected) := by
  constructor
  · intro site m ticks
    have hlaunch := rests_launch (new verb (.new target self termination k concurrency)) seeds site m
    obtain ⟨log, hrests⟩ := hlaunch.ticks ticks
    obtain ⟨hrunning, halike⟩ := (hrests m).running
    exact ⟨hrunning.bounded.trans halike.concurrency.le, fun hl =>
      ⟨hrunning.outstanding hl, hrunning.expected hl, hrunning.waiting hl⟩⟩
  · intro log s h
    obtain ⟨hrunning, halike⟩ := h.running
    refine ⟨hrunning.bounded.trans halike.concurrency.le, fun hl f hf => ⟨?_, ?_⟩⟩
    · rw [hrunning.outstanding hl]
      exact List.length_pos_of_mem hf
    · rw [hrunning.expected hl]
      exact List.single_le_sum (by simp) _ (List.mem_map.2 ⟨f, hf, rfl⟩)

end Kademlia.Lookup
