import Kademlia.Proofs.Lookup.Impostors

/-!
# How a lookup ends

A lookup ends once, with one last report, and from then on it asks nobody and learns nothing. It still
takes in how the requests fared that were under way, each of them once, and is done when all of them
have landed.
-/

namespace Kademlia.Lookup

open Wire Exchange

/-! ### The last report -/

namespace Verb

/-- The batches of values that a lookup may report on its way. Only one that fetches values has any,
and none of them is empty. -/
def Batches : Verb → List (List Bytes) → Prop
  | getValue _, batches => ∀ batch ∈ batches, batch ≠ []
  | _, batches => batches = []

/-- The report with which a lookup ends: an empty batch, if it fetches values, else some contacts. -/
def Closes : Verb → Report → Prop
  | getValue _, report => report = .values []
  | _, report => ∃ contacts, report = .contacts contacts

variable {v w : Verb}

lemma Alike.batches (h : v.Alike w) : w.Batches = v.Batches := by
  cases h <;> rfl

lemma Alike.closes (h : v.Alike w) : w.Closes = v.Closes := by
  cases h <;> rfl

lemma batches_nil (v : Verb) : v.Batches [] := by
  cases v with
  | getValue seen => exact fun _ h => absurd h List.not_mem_nil
  | _ => rfl

lemma Batches.append {batches more : List (List Bytes)} (h : v.Batches batches)
    (h' : v.Batches more) : v.Batches (batches ++ more) := by
  cases v with
  | getValue seen => exact List.forall_mem_append.2 ⟨h, h'⟩
  | _ => exact List.append_eq_nil_iff.2 ⟨h, h'⟩

lemma Batches.eq_nil (hv : ∀ seen, v ≠ getValue seen) {batches : List (List Bytes)}
    (h : v.Batches batches) : batches = [] := by
  cases v with
  | getValue seen => exact absurd rfl (hv seen)
  | _ => exact h

lemma Closes.exists_contacts (hv : ∀ seen, v ≠ getValue seen) {report : Report}
    (h : v.Closes report) : ∃ contacts, report = .contacts contacts := by
  cases v with
  | getValue seen => exact absurd rfl (hv seen)
  | _ => exact h

lemma closes_finish (v : Verb) (s : State) : v.Closes (v.finish s).2.2 := by
  cases v with
  | getValue seen => rfl
  | _ => exact ⟨_, rfl⟩

/-- Taking in an answer reports a batch at most. -/
lemma batches_process (v : Verb) (s : State) (c : Contact) (answer : v.Answer) :
    ∃ batches, v.Batches batches ∧ (v.process s c answer).2.2 = batches.map .values := by
  cases v with
  | getValue seen =>
    by_cases hfresh : freshValues seen (show GetValue.Answer from answer).values = []
    · exact ⟨[], batches_nil _, by simp [process, hfresh]⟩
    · exact ⟨[freshValues seen (show GetValue.Answer from answer).values],
        List.forall_mem_singleton.2 hfresh, by simp [process, hfresh]⟩
  | _ => exact ⟨[], rfl, rfl⟩

end Verb

lemma Goal.verb_ne {goal : Goal} (hgoal : ∀ key termination, goal ≠ .getValue key termination)
    (known : List Bytes) (seen : List Bytes) : goal.verb known ≠ .getValue seen := by
  cases goal with
  | getValue key termination => exact absurd rfl (hgoal key termination)
  | _ => nofun

/-- The reports of a lookup, before it ended and afterwards. -/
inductive Reported (v : Verb) : Bool → List Report → Prop where
  | going {batches : List (List Bytes)} (h : v.Batches batches) :
    Reported v false (batches.map .values)
  | ended {batches : List (List Bytes)} {last : Report} (h : v.Batches batches)
      (hlast : v.Closes last) : Reported v true (batches.map .values ++ [last])

variable {v : Verb} {l : Lookup} {f : Flight}

lemma Reported.exists_batches {reports : List Report} (h : Reported v false reports) :
    ∃ batches, v.Batches batches ∧ reports = batches.map .values := by
  cases h with
  | going h => exact ⟨_, h, rfl⟩

/-- A lookup that fetches no values reports some contacts at its end, and nothing before. -/
lemma Reported.contacts (hv : ∀ seen, v ≠ .getValue seen) {ended : Bool} {reports : List Report}
    (h : Reported v ended reports) :
    ended = false ∧ reports = [] ∨ ended = true ∧ ∃ contacts, reports = [.contacts contacts] := by
  cases h with
  | going hbatches => exact .inl ⟨rfl, by rw [hbatches.eq_nil hv]; rfl⟩
  | ended hbatches hlast =>
    obtain ⟨contacts, rfl⟩ := hlast.exists_contacts hv
    exact .inr ⟨rfl, contacts, by rw [hbatches.eq_nil hv]; rfl⟩

lemma Reported.finish (hv : v.Alike l.verb) (h : Reported v false l.reports) :
    Reported v l.finish.state.finished l.finish.reports := by
  obtain ⟨batches, hbatches, heq⟩ := h.exists_batches
  have hreports : l.finish.reports = l.reports ++
      [(l.verb.finish { l.state with finished := true }).2.2] := rfl
  rw [finished_finish, hreports, heq]
  exact .ended hbatches (hv.closes ▸ l.verb.closes_finish _)

lemma Reported.schedule (hv : v.Alike l.verb) (hl : l.state.finished = false)
    (h : Reported v false l.reports) :
    Reported v (schedule l).1.state.finished (schedule l).1.reports := by
  rcases schedule_cases hl with ⟨-, heq⟩ | ⟨-, -, heq⟩ | ⟨-, -, ⟨-, heq⟩ | ⟨-, heq⟩⟩
  all_goals rw [heq]
  · exact h.finish hv
  · exact hl.symm ▸ h
  · exact Reported.finish (l := l.advance.1) hv h
  · rw [finished_advance, hl]
    exact h

lemma Reported.learn (hv : v.Alike l.verb) (h : Reported v false l.reports)
    (answer : l.verb.Answer) : Reported v false (l.learn f answer).reports := by
  obtain ⟨batches, hbatches, heq⟩ := h.exists_batches
  obtain ⟨more, hmore, heq'⟩ := l.verb.batches_process
    { (l.drop f).state with answered := f.contact.id :: l.state.answered } f.contact answer
  have hreports : (l.learn f answer).reports = (batches ++ more).map .values := by
    rw [List.map_append, ← heq, ← heq']
    rfl
  rw [hreports]
  exact .going (hbatches.append (hv.batches ▸ hmore))

/-- A lookup that has ended does not report anything more. -/
lemma Reported.settle (hv : v.Alike l.verb) (h : Reported v l.state.finished l.reports)
    (f : Flight) (result : Except CallError l.verb.Answer) :
    Reported v (l.settle f result).1.state.finished (l.settle f result).1.reports := by
  cases result with
  | error e =>
    cases hl : l.state.finished with
    | true => simpa [Lookup.settle, hl] using h
    | false =>
      rw [settle_error hl]
      exact Reported.schedule (l := l.drop f) hv hl (hl ▸ h)
  | ok answer =>
    by_cases hnew : l.state.finished = true ∨ f.contact.id ∈ l.state.answered
    · simpa [Lookup.settle, hnew] using h
    · have hl : l.state.finished = false := Bool.eq_false_iff.2 fun hl => hnew (.inl hl)
      rw [settle_ok hnew]
      exact Reported.schedule (hv.trans (Verb.alike_process ..)) ((finished_learn l f answer).trans hl)
        (Reported.learn hv (hl ▸ h) answer)

section Runs

variable {state : State} {seeds : List Contact} {log : List Landing} {s : Sweep}

lemma alike_begin (l : Lookup) (seeds : List Contact) : l.verb.Alike (l.begin seeds).1.verb :=
  alike_schedule_verb { l with state := l.state.discoverAll seeds }

lemma Passes.alike (h : Passes l seeds log s) : l.verb.Alike s.lookup.verb := by
  refine (Passes.induct (P := fun _ l' _ => l.verb.Alike l'.verb) ?congr ?start ?land h).1
  case congr => exact fun _ _ _ _ _ h _ => h
  case start => exact fun _ _ => alike_begin l seeds
  case land => exact fun _ l' f _ _ _ hv _ _ => hv.trans (alike_settle l' f _)

/-- In every sweep of a run the lookup has made its last report if it has ended, and only then. -/
lemma Passes.reported (hstate : state.finished = false) (h : Passes (.new v state) seeds log s) :
    v.Alike s.lookup.verb ∧ Reported v s.lookup.state.finished s.lookup.reports := by
  refine (Passes.induct (P := fun _ l _ => v.Alike l.verb ∧ Reported v l.state.finished l.reports)
    ?congr ?start ?land h).1
  case congr => exact fun _ _ _ _ _ h _ => h
  case start =>
    intro new _
    refine ⟨alike_begin (.new v state) seeds, ?_⟩
    exact Reported.schedule (l := .new v (state.discoverAll seeds)) (.refl v)
      ((State.finished_discoverAll state seeds).trans hstate) (.going v.batches_nil)
  case land =>
    intro log l f others new reply ⟨hv, hl⟩ _ _
    exact ⟨hv.trans (alike_settle l f _), hl.settle hv f _⟩

/-! ### Every request lands once -/

lemma asked_schedule (l : Lookup) : (schedule l).1.asked = l.asked ++ (schedule l).2 := by
  cases hl : l.state.finished with
  | true => simp [schedule, hl]
  | false =>
    rcases schedule_cases hl with ⟨-, heq⟩ | ⟨-, -, heq⟩ | ⟨-, -, ⟨-, heq⟩ | ⟨-, heq⟩⟩
    all_goals rw [heq]
    · exact (List.append_nil _).symm
    · exact (List.append_nil _).symm
    · rfl
    · rfl

lemma asked_settle (l : Lookup) (f : Flight) (result : Except CallError l.verb.Answer) :
    (l.settle f result).1.asked = l.asked ++ (l.settle f result).2.1 := by
  cases result with
  | error e =>
    cases hl : l.state.finished with
    | true => simp [settle, hl]
    | false =>
      rw [settle_error hl]
      exact asked_schedule (l.drop f)
  | ok answer =>
    by_cases hnew : l.state.finished = true ∨ f.contact.id ∈ l.state.answered
    · simp [settle, hnew]
    · rw [settle_ok hnew]
      exact asked_schedule (l.learn f answer)

/-- The requests that landed and those under way are those that were asked for, one for each. -/
lemma Passes.exists_made (h : Passes (.new v state) seeds log s) :
    ∃ flights, List.Forall₂ Flight.Makes flights s.lookup.asked ∧
      (made log (s.kept ++ s.rest)).Perm flights := by
  refine (Passes.induct (P := fun log l fs => ∃ flights,
    List.Forall₂ Flight.Makes flights l.asked ∧ (made log fs).Perm flights) ?congr ?start ?land h).1
  case congr =>
    intro log l flights fs fs' ⟨all, hmakes, hall⟩ hperm
    exact ⟨all, hmakes, (hperm.symm.append_left _).trans hall⟩
  case start =>
    intro new hnew
    refine ⟨new, ?_, List.Perm.refl _⟩
    have hasked := asked_schedule (.new v (state.discoverAll seeds))
    exact hasked ▸ hnew
  case land =>
    intro log l f others new reply ⟨all, hmakes, hall⟩ _ hnew
    refine ⟨all ++ new, ?_, ?_⟩
    · rw [asked_settle]
      exact List.rel_append hmakes hnew
    · rw [made_land, ← List.cons_append, made, ← List.append_assoc]
      exact hall.append_right new

end Runs

/-! ### How requests fared -/

/-- What is said of a request that landed. -/
def Landing.verdict (v : Verb) (d : Landing) : Verdict :=
  if (v.parse d.reply).isOk then .answered d.flight.contact else .failed d.flight.contact

/-- Which answers can be read does not depend on what was gathered before. -/
lemma Verb.Alike.verdict {w : Verb} (h : v.Alike w) (d : Landing) : d.verdict w = d.verdict v := by
  cases h <;> rfl

lemma verdict_settle_eq (l : Lookup) (f : Flight) (reply : Reply) (late : Bool) :
    (l.settle f (l.verb.parse reply)).2.2 = Landing.verdict l.verb ⟨f, reply, late⟩ := by
  unfold Landing.verdict settle
  dsimp only
  cases l.verb.parse reply with
  | ok answer =>
    dsimp only
    split <;> rfl
  | error e =>
    dsimp only
    split <;> rfl

/-- A look at a request says how it fared if its reply is there. -/
lemma verdicts_step (site : Site) (s : Sweep) (f : Flight) (fs : List Flight) :
    (s.step site f fs).verdicts = s.verdicts ++ (s.landings f).map (Landing.verdict s.lookup.verb) := by
  cases hpoll : f.call.poll s.multiplexer with
  | mk answer m =>
    cases answer with
    | none => simp [Sweep.step, Sweep.landings, hpoll]
    | some reply =>
      simp only [Sweep.step, Sweep.landings, hpoll, List.map_cons, List.map_nil]
      rw [verdict_settle_eq]

section Ticks

variable {l₀ l' : Lookup} {seeds : List Contact} {log : List Landing} {s : Sweep}

/-- A whole sweep says of the requests that land meanwhile how they fared, in their order. -/
lemma Passes.run_verdicts (h : Passes l₀ seeds log s) (site : Site) :
    ∃ more, Passes l₀ seeds (log ++ more) (s.run site) ∧
      (s.run site).verdicts = s.verdicts ++ more.map (Landing.verdict l₀.verb) := by
  refine Sweep.run_keeps (P := fun s' => ∃ more, Passes l₀ seeds (log ++ more) s' ∧
    s'.verdicts = s.verdicts ++ more.map (Landing.verdict l₀.verb)) ?_ ?_
  · exact ⟨[], (List.append_nil log).symm ▸ h, (List.append_nil _).symm⟩
  · rintro s' f fs hrest ⟨more, hmore, hverdicts⟩
    refine ⟨more ++ s'.landings f, ?_, ?_⟩
    · rw [← List.append_assoc]
      exact hmore.look site s'.multiplexer hrest
    · rw [verdicts_step, hverdicts, List.map_append, List.append_assoc,
        funext fun d => hmore.alike.verdict d]

/-- A tick says of the requests that land meanwhile how they fared, in their order. -/
lemma Rests.tick_verdicts (h : Rests l₀ seeds log l') (site : Site) (m : Multiplexer) :
    ∃ more, Rests l₀ seeds (log ++ more) (l'.tick site m).1 ∧
      (l'.tick site m).2.2 = more.map (Landing.verdict l₀.verb) := by
  obtain ⟨more, hmore, hverdicts⟩ := (h m).run_verdicts site
  exact ⟨more, fun m' => hmore.again m' (Sweep.rest_run _ site), hverdicts⟩

end Ticks

/-! ### After the end -/

/-- The sweeps that come after a sweep, with the replies taken meanwhile. -/
inductive Sweep.Onward (s : Sweep) : List Landing → Sweep → Prop where
  | refl : Onward s [] s
  | look {more : List Landing} {s' : Sweep} {f : Flight} {fs : List Flight} (site : Site)
      (m : Multiplexer) (before : Onward s more s') (rest : s'.rest = f :: fs) :
    Onward s (more ++ ({ s' with multiplexer := m } : Sweep).landings f)
      (({ s' with multiplexer := m } : Sweep).step site f fs)
  | again {more : List Landing} {s' : Sweep} (m : Multiplexer) (before : Onward s more s')
      (rest : s'.rest = []) :
    Onward s more ⟨{ s'.lookup with flights := s'.kept }, m, [], s'.kept, []⟩

section Ended

variable {s s' : Sweep} {more : List Landing}

lemma settle_of_finished (hl : l.state.finished = true) (f : Flight)
    (result : Except CallError l.verb.Answer) :
    (l.settle f result).1 = l ∧ (l.settle f result).2.1 = [] := by
  cases result <;> simp [settle, hl]

/-- A look at a request of a lookup that has ended takes in how it fared, and that is all. -/
lemma step_of_finished (h : s.lookup.state.finished = true) (site : Site) {f : Flight}
    {fs : List Flight} (hrest : s.rest = f :: fs) :
    (s.step site f fs).lookup = s.lookup ∧
      (∃ delivered, (s.step site f fs).multiplexer = { s.multiplexer with delivered }) ∧
      (made (s.landings f) ((s.step site f fs).kept ++ (s.step site f fs).rest)).Perm
        (s.kept ++ s.rest) := by
  obtain ⟨delivered, hdelivered, -⟩ := s.multiplexer.exists_snd_poll f.call
  cases hpoll : f.call.poll s.multiplexer with
  | mk answer m =>
    rw [hpoll] at hdelivered
    cases answer with
    | none =>
      simp only [Sweep.step, Sweep.landings, hpoll, hrest, made, List.map_nil, List.nil_append,
        List.append_assoc, List.singleton_append]
      exact ⟨trivial, ⟨delivered, hdelivered⟩, List.Perm.refl _⟩
    | some reply =>
      obtain ⟨hsame, hnone⟩ := settle_of_finished h f (s.lookup.verb.parse reply)
      simp only [Sweep.step, Sweep.landings, hpoll, hrest, hsame, hnone, issue, made, List.map_cons,
        List.map_nil, List.append_nil, List.singleton_append]
      refine ⟨trivial, ⟨delivered, hdelivered⟩, ?_⟩
      exact (((perm_refill fs).append_left s.kept).cons f).trans List.perm_middle.symm

/-- Nothing changes about a lookup that has ended but that its requests land, each of them once. -/
lemma Sweep.Onward.of_finished (h : s.Onward more s') (hs : s.lookup.state.finished = true) :
    s'.lookup = { s.lookup with flights := s'.lookup.flights } ∧
      (made more (s'.kept ++ s'.rest)).Perm (s.kept ++ s.rest) := by
  induction h with
  | refl => exact ⟨rfl, List.Perm.refl _⟩
  | @look more s' f fs site m before hrest ih =>
    obtain ⟨hsame, hperm⟩ := ih
    have hended : s'.lookup.state.finished = true := by
      rw [hsame]
      exact hs
    obtain ⟨hlookup, -, hstep⟩ :=
      step_of_finished (s := { s' with multiplexer := m }) hended site hrest
    refine ⟨by rw [hlookup]; exact hsame, ?_⟩
    rw [made, List.map_append, List.append_assoc]
    exact (hstep.append_left _).trans hperm
  | again m before hrest ih =>
    obtain ⟨hsame, hperm⟩ := ih
    rw [hrest, List.append_nil] at hperm
    exact ⟨by rw [hsame], hperm⟩

/-- The sweeps of a lookup that has ended send nothing: they only take replies. -/
lemma run_of_finished (hs : s.lookup.state.finished = true) (site : Site) :
    ∃ delivered, (s.run site).multiplexer = { s.multiplexer with delivered } := by
  refine (Sweep.run_keeps (P := fun s' => s'.lookup.state.finished = true ∧
    ∃ delivered, s'.multiplexer = { s.multiplexer with delivered }) ?_ ?_).2
  · exact ⟨hs, s.multiplexer.delivered, rfl⟩
  · rintro s' f fs hrest ⟨hs', delivered, heq⟩
    obtain ⟨hlookup, ⟨delivered', hstep⟩, -⟩ := step_of_finished hs' site hrest
    rw [hlookup, hstep, heq]
    exact ⟨hs', delivered', rfl⟩

end Ended

/-! ### Between two ticks -/

section Rests

variable {state : State} {seeds : List Contact} {log : List Landing} {l' : Lookup}

/-- What is true of every sweep is true of a lookup that rests. -/
lemma Rests.exists_passes (h : Rests l seeds log l') :
    ∃ m, Passes l seeds log ⟨l', m, [], l'.flights, []⟩ :=
  ⟨.new ⟨.v4 0 0 0 0, 0⟩ 0 0 ⟨id, 0⟩, h _⟩

/-- A lookup is done when it has ended and as many requests landed as were asked for. -/
lemma Rests.isDone_iff (h : Rests (.new v state) seeds log l') :
    l'.isDone = true ↔ l'.state.finished = true ∧ log.length = l'.asked.length := by
  obtain ⟨m, hpasses⟩ := h.exists_passes
  obtain ⟨flights, hmakes, hperm⟩ := hpasses.exists_made
  have hlength := hperm.length_eq.trans hmakes.length_eq
  simp only [made, List.nil_append, List.length_append, List.length_map] at hlength
  rw [isDone, Bool.and_eq_true, List.isEmpty_iff_length_eq_zero]
  refine and_congr_right fun _ => ?_
  omega

end Rests

end Kademlia.Lookup
