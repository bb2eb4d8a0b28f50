import Kademlia.Proofs.Lookup.Exploration

/-!
# Touring the seeds

A lookup that fetches or stores values learns of nobody. It walks through the first contacts of its
seeds, asks each one that is to be asked once, and leaves the others out. It ends because its
termination is met, or with all of them passed and nothing under way.
-/

namespace Kademlia.Lookup

open Wire Exchange

/-! ### Who is to be asked -/

namespace Verb

/-- Is a candidate to be asked at all? -/
def asks : Verb → Contact → Bool
  | findNode, _ | findValue, _ => true
  | getValue _, c => decide (c.announced ≠ 0)
  | storeValue .., c => c.token.isSome

/-- Two verbs of one lookup, which may have gathered more or less. -/
inductive Alike : Verb → Verb → Prop where
  | findNode : Alike findNode findNode
  | findValue : Alike findValue findValue
  | getValue (seen seen' : List Bytes) : Alike (getValue seen) (getValue seen')
  | storeValue (value : Bytes) (acknowledged acknowledged' : List Contact) :
    Alike (storeValue value acknowledged) (storeValue value acknowledged')

variable {v w x : Verb}

lemma Alike.refl (v : Verb) : v.Alike v := by
  cases v <;> constructor

lemma Alike.trans (h : v.Alike w) (h' : w.Alike x) : v.Alike x := by
  cases h <;> cases h' <;> constructor

lemma Alike.isFinding (h : v.Alike w) : w.isFinding = v.isFinding := by
  cases h <;> rfl

lemma Alike.asks (h : v.Alike w) : w.asks = v.asks := by
  cases h <;> rfl

lemma isSome_request_eq (v : Verb) (s : State) (c : Contact) :
    (v.request s c).isSome = v.asks c := by
  cases v with
  | findNode => rfl
  | findValue => rfl
  | getValue seen => by_cases h : c.announced = 0 <;> simp [request, Verb.asks, h]
  | storeValue value acknowledged => simp [request, Verb.asks]

lemma alike_process (v : Verb) (s : State) (c : Contact) (answer : v.Answer) :
    v.Alike (v.process s c answer).1 := by
  cases v <;> constructor

lemma alike_finish (v : Verb) (s : State) : v.Alike (v.finish s).1 := by
  cases v <;> constructor

end Verb

/-! ### What a tour keeps -/

/-- How far a lookup got on its tour of the first contacts of its seeds. -/
structure Tours (v : Verb) (me : Id) (seeds : List Contact) (log : List Landing) (l : Lookup)
    (fs : List Flight) : Prop where
  verb : v.Alike l.verb
  own : l.state.self = me
  memo : l.state.candidates.Memo
  found : l.state.candidates.found = firsts me seeds
  distinct : ((made log fs).map (·.contact.id)).Nodup
  queried : ∀ f ∈ made log fs, f.contact.id ∈ l.state.queried
  requested : ∀ f ∈ made log fs, ∃ a ∈ l.asked, f.Makes a
  asked : ∀ a ∈ l.asked, a.contact ∈ firsts me seeds ∧ (∃ f ∈ made log fs, f.Makes a) ∧
    ∃ w, v.Alike w ∧ w.request l.state a.contact = some (a.request, a.expected)
  passed : ∀ c ∈ firsts me seeds, c.id ∈ l.state.queried →
    v.asks c = true → ∃ f ∈ made log fs, f.contact = c

variable {v : Verb} {self : Id} {seeds : List Contact} {log : List Landing} {start : State}
  {l l' : Lookup} {f : Flight} {fs others new : List Flight}

/-- Each node is there once among the first contacts. -/
lemma eq_of_mem_firsts {c d : Contact} (hc : c ∈ firsts self seeds) (hd : d ∈ firsts self seeds)
    (hid : c.id = d.id) : c = d :=
  List.inj_on_of_nodup_map (nodup_firsts self seeds) hc hd hid

namespace Tours

lemma perm {fs' : List Flight} (h : Tours v self seeds log l fs) (hperm : fs.Perm fs') :
    Tours v self seeds log l fs' := by
  have hmade : (made log fs).Perm (made log fs') := hperm.append_left _
  refine ⟨h.verb, h.own, h.memo, h.found, (hmade.map _).nodup_iff.1 h.distinct, ?_, ?_, ?_, ?_⟩
  · exact fun f hf => h.queried f (hmade.mem_iff.2 hf)
  · exact fun f hf => h.requested f (hmade.mem_iff.2 hf)
  · intro a ha
    obtain ⟨hfirst, ⟨f, hf, hmakes⟩, hrequest⟩ := h.asked a ha
    exact ⟨hfirst, ⟨f, hmade.mem_iff.1 hf, hmakes⟩, hrequest⟩
  · intro c hc hid hasks
    obtain ⟨f, hf, heq⟩ := h.passed c hc hid hasks
    exact ⟨f, hmade.mem_iff.1 hf, heq⟩

/-- Nothing else than the candidates, who was passed and who was asked matters. -/
lemma congr (h : Tours v self seeds log l fs) (hverb : l.verb.Alike l'.verb)
    (halike : l.state.Alike l'.state)
    (hcandidates : l'.state.candidates = l.state.candidates)
    (hqueried : l'.state.queried = l.state.queried) (hasked : l'.asked = l.asked) :
    Tours v self seeds log l' fs := by
  refine ⟨h.verb.trans hverb, halike.self.trans h.own, ?_, ?_, h.distinct, ?_, ?_, ?_, ?_⟩
  · rw [hcandidates]
    exact h.memo
  · rw [hcandidates]
    exact h.found
  · rw [hqueried]
    exact h.queried
  · rw [hasked]
    exact h.requested
  · rw [hasked]
    intro a ha
    obtain ⟨hfirst, hmade, w, hw, hrequest⟩ := h.asked a ha
    exact ⟨hfirst, hmade, w, hw, (request_congr halike w a.contact).trans hrequest⟩
  · rw [hqueried]
    exact h.passed

lemma nodup_log (h : Tours v self seeds log l fs) : (log.map (·.flight.contact.id)).Nodup :=
  nodup_log_of_made h.distinct

/-- All candidates are considered. -/
lemma mem_next_iff (h : Tours v self seeds log l fs) (hv : v.isFinding = false) {c : Contact} :
    c ∈ l.next ↔ c ∈ firsts self seeds := by
  have hflat : l.verb.isFinding = false := h.verb.isFinding.trans hv
  have hall : l.state.candidates.ranking.length ≤ l.state.candidates.found.length :=
    (Candidates.ranking_perm _).length_eq.le
  rw [next, h.memo.closest_eq, hflat, if_neg Bool.false_ne_true, Option.getD_none,
    List.take_of_length_le hall, (Candidates.ranking_perm _).mem_iff, h.found]

/-! ### Scheduling -/

lemma finish (h : Tours v self seeds log l fs) (hv : v.isFinding = false) :
    Tours v self seeds log l.finish fs := by
  have hflat : l.verb.isFinding = false := h.verb.isFinding.trans hv
  refine h.congr (l.verb.alike_finish _) (Lookup.alike_finish l) ?_ ?_ rfl
  · unfold Lookup.finish Verb.finish
    cases hl : l.verb <;> simp_all [Verb.isFinding]
  · obtain ⟨candidates, heq⟩ := finish_eq l
    rw [heq]

/-- Passing candidates asks those that are to be asked and leaves the others out. -/
lemma advance (h : Tours v self seeds log l fs) (hv : v.isFinding = false)
    (hnew : List.Forall₂ Flight.Makes new l.advance.2) :
    Tours v self seeds log l.advance.1 (fs ++ new) := by
  have hwalks := walks_advance l
  have hmade : made log (fs ++ new) = made log fs ++ new :=
    (List.append_assoc _ _ _).symm
  have hcandidates := candidates_advance l
  have hfirst {a : Ask} (ha : a ∈ l.advance.2) : a.contact ∈ firsts self seeds :=
    (h.mem_next_iff hv).1 (hwalks.asked a ha).1
  refine ⟨h.verb, (alike_advance l).self.trans h.own, ?_, ?_, ?_, ?_, ?_, ?_, ?_⟩
  · rw [hcandidates]
    exact h.memo.sort
  · rw [hcandidates, found_sort, h.found]
  · rw [hmade, List.map_append]
    exact nodup_advance h.distinct (List.forall_mem_map.2 h.queried) hnew
  · intro f hf
    rw [hmade] at hf
    rcases List.mem_append.1 hf with hf | hf
    · exact hwalks.mono _ (h.queried f hf)
    · obtain ⟨a, ha, hmakes⟩ := exists_ask_of_makes hnew hf
      exact hmakes.contact ▸ (hwalks.fresh a ha).2
  · intro f hf
    rw [hmade] at hf
    rcases List.mem_append.1 hf with hf | hf
    · obtain ⟨a, ha, hmakes⟩ := h.requested f hf
      exact ⟨a, List.mem_append_left _ ha, hmakes⟩
    · obtain ⟨a, ha, hmakes⟩ := exists_ask_of_makes hnew hf
      exact ⟨a, List.mem_append_right _ ha, hmakes⟩
  · intro a ha
    rw [hmade]
    rcases List.mem_append.1 ha with ha | ha
    · obtain ⟨hc, ⟨f, hf, hmakes⟩, w, hw, hrequest⟩ := h.asked a ha
      exact ⟨hc, ⟨f, List.mem_append_left _ hf, hmakes⟩, w, hw,
        (request_congr (alike_advance l) w a.contact).trans hrequest⟩
    · obtain ⟨f, hf, hmakes⟩ := exists_flight_of_makes hnew ha
      have hrequest := (hwalks.asked a ha).2.2
      rw [← request_congr hwalks.alike] at hrequest
      exact ⟨hfirst ha, ⟨f, List.mem_append_right _ hf, hmakes⟩, l.verb, h.verb, hrequest⟩
  · intro c hc hid hasks
    rw [hmade]
    rcases hwalks.passed c.id hid with hid | ⟨a, ha, heq⟩ | ⟨d, hd, heq, hnone⟩
    · obtain ⟨f, hf, hcontact⟩ := h.passed c hc hid hasks
      exact ⟨f, List.mem_append_left _ hf, hcontact⟩
    · obtain ⟨f, hf, hmakes⟩ := exists_flight_of_makes hnew ha
      exact ⟨f, List.mem_append_right _ hf, hmakes.contact.trans (eq_of_mem_firsts (hfirst ha) hc heq)⟩
    · obtain rfl := eq_of_mem_firsts ((h.mem_next_iff hv).1 hd) hc heq
      rw [← h.verb.asks, ← l.verb.isSome_request_eq l.ordered, hnone] at hasks
      exact absurd hasks (by simp)

lemma schedule (h : Tours v self seeds log l fs) (hv : v.isFinding = false)
    (hready : Ready start l fs) (hnew : List.Forall₂ Flight.Makes new (schedule l).2) :
    Tours v self seeds log (schedule l).1 (fs ++ new) := by
  rcases hready.schedule_cases hnew with ⟨-, heq, hsame⟩ | ⟨-, -, heq, hsame⟩ |
    ⟨-, -, hnew, ⟨-, heq⟩ | ⟨-, heq⟩⟩
  all_goals rw [heq]
  · rw [hsame]
    exact h.finish hv
  · rw [hsame]
    exact h
  · exact (h.advance hv hnew).finish hv
  · exact h.advance hv hnew

/-- When nothing is under way after passing candidates, all of them were passed. -/
lemma passed_of_idle (h : Tours v self seeds log l fs) (hv : v.isFinding = false)
    (hready : Ready start l fs) (hbudget : l.state.budgetReached l.verb.resultCount = false)
    (hnew : List.Forall₂ Flight.Makes new l.advance.2) (hidle : fs ++ new = []) :
    ∀ c ∈ firsts self seeds, c.id ∈ l.advance.1.state.queried := by
  intro c hc
  refine hready.mem_queried_of_idle hbudget hnew hidle ((h.mem_next_iff hv).2 hc) ?_
  rw [h.own]
  exact ne_self_of_mem_firsts hc

/-! ### Taking in replies -/

/-- A request that landed was still made. -/
lemma land (h : Tours v self seeds log l (f :: others)) (reply : Reply) (late : Bool) :
    Tours v self seeds (log ++ [⟨f, reply, late⟩]) l others := by
  have hmade := made_land log f reply late others
  refine ⟨h.verb, h.own, h.memo, h.found, ?_, ?_, ?_, ?_, ?_⟩
  · exact hmade ▸ h.distinct
  · exact hmade ▸ h.queried
  · exact hmade ▸ h.requested
  · exact hmade ▸ h.asked
  · exact hmade ▸ h.passed

lemma drop (h : Tours v self seeds log l (f :: others)) (reply : Reply) :
    Tours v self seeds (log ++ [⟨f, reply, false⟩]) (l.drop f) others :=
  (h.land reply false).congr (.refl _) (alike_drop l f) rfl rfl rfl

/-- Whatever an answer says, the tour goes on as before. -/
lemma learn (h : Tours v self seeds log l (f :: others)) (hv : v.isFinding = false) (reply : Reply)
    (answer : l.verb.Answer) :
    Tours v self seeds (log ++ [⟨f, reply, false⟩]) (l.learn f answer) others := by
  have hflat : l.verb.isFinding = false := h.verb.isFinding.trans hv
  refine (h.land reply false).congr (l.verb.alike_process _ _ _) (alike_learn l f answer) ?_ ?_ rfl
  · obtain ⟨verb, state, flights, asked, reports⟩ := l
    cases verb with
    | findNode => simp [Verb.isFinding] at hflat
    | findValue => simp [Verb.isFinding] at hflat
    | getValue seen => rfl
    | storeValue value acknowledged => rfl
  · obtain ⟨candidates, heq⟩ := learn_eq l f answer
    rw [heq]
    rfl

/-- Whoever is to be asked and was passed has landed if nothing is under way. -/
lemma landed (h : Tours v self seeds log l []) {c : Contact} (hc : c ∈ firsts self seeds)
    (hid : c.id ∈ l.state.queried) (hasks : v.asks c = true) :
    ∃ d ∈ log, d.flight.contact = c := by
  obtain ⟨f, hf, rfl⟩ := h.passed c hc hid hasks
  rw [made, List.append_nil] at hf
  obtain ⟨d, hd, rfl⟩ := List.mem_map.1 hf
  exact ⟨d, hd, rfl⟩

end Tours

/-! ### Runs -/

variable {target : Id} {termination : Termination} {k concurrency : Nat} {s : Sweep}

lemma tours_discoverAll (v : Verb) (target self : Id) (termination : Termination)
    (k concurrency : Nat) (seeds : List Contact) :
    Tours v self seeds []
      (.new v ((State.new target self termination k concurrency).discoverAll seeds)) [] := by
  have hself : ((State.new target self termination k concurrency).discoverAll seeds).self = self :=
    (State.alike_discoverAll _ seeds).self
  have hfound : ((State.new target self termination k concurrency).discoverAll
      seeds).candidates.found = (firsts self ([] ++ seeds)).map fun c => c :=
    found_discoverAll (fun c => rfl) rfl seeds fun _ _ _ => rfl
  refine ⟨.refl v, hself, State.memo_discoverAll (Candidates.Memo.empty target) seeds, ?_,
    List.nodup_nil, ?_, ?_, ?_, ?_⟩
  · simpa [new] using hfound
  · simp [made]
  · simp [made]
  · simp [new]
  · simp [new, State.new]

/-- A lookup that fetches or stores is on its tour in every sweep of a run. -/
lemma Passes.tours (hv : v.isFinding = false)
    (h : Passes (.new v (.new target self termination k concurrency)) seeds log s) :
    Tours v self seeds log s.lookup (s.kept ++ s.rest) := by
  refine (h.induct_scheduled (P := Tours v self seeds) (Q := Tours v self seeds)
    ?congr ?start ?schedule ?late ?drop ?learn).2.2
  case congr =>
    intro log l flights fs fs' h hperm
    exact (h.perm hperm).congr (.refl _) (.refl _) rfl rfl rfl
  case start =>
    exact tours_discoverAll v target self termination k concurrency seeds
  case schedule =>
    intro log l fs new hready h hnew
    exact h.schedule hv hready hnew
  case late =>
    intro log l f others reply _ h
    exact h.land reply true
  case drop =>
    intro log l f others reply _ _ h _
    exact h.drop reply
  case learn =>
    intro log l f others reply answer _ _ h _ _
    exact h.learn hv reply answer

/-! ### Tours that nothing cuts short -/

/-- A lookup without a budget ends when all its candidates were passed and nothing is under way. -/
structure Completes (candidates : List Contact) (log : List Landing) (l : Lookup)
    (fs : List Flight) : Prop where
  prompt : ∀ d ∈ log, d.late = false
  ended : l.state.finished = true → fs = [] ∧ ∀ c ∈ candidates, c.id ∈ l.state.queried

lemma completes_schedule (h : Tours v self seeds log l fs) (hv : v.isFinding = false)
    (hready : Ready start l fs) (hunbounded : start.termination.budget = none)
    (hprompt : ∀ d ∈ log, d.late = false)
    (hnew : List.Forall₂ Flight.Makes new (schedule l).2) :
    Completes (firsts self seeds) log (schedule l).1 (fs ++ new) := by
  refine ⟨hprompt, fun hended => ?_⟩
  obtain ⟨hbudget, hnew, ⟨hidle, heq⟩ | ⟨-, heq⟩⟩ :=
    hready.schedule_cases_of_unbounded hunbounded hnew
  · obtain ⟨candidates, hstate⟩ := finish_eq l.advance.1
    rw [heq, hstate]
    exact ⟨hidle, h.passed_of_idle hv hready hbudget hnew hidle⟩
  · rw [heq] at hended
    exact absurd (((finished_advance l).trans hready.going).symm.trans hended) (by simp)

lemma Passes.completes (hv : v.isFinding = false) (hunbounded : termination.budget = none)
    (h : Passes (.new v (.new target self termination k concurrency)) seeds log s) :
    Completes (firsts self seeds) log s.lookup (s.kept ++ s.rest) := by
  refine (h.induct_scheduled
    (P := fun log l fs => Tours v self seeds log l fs ∧ Completes (firsts self seeds) log l fs)
    (Q := fun log l fs => Tours v self seeds log l fs ∧ ∀ d ∈ log, d.late = false)
    ?congr ?start ?schedule ?late ?drop ?learn).2.2.2
  case congr =>
    rintro log l flights fs fs' ⟨htours, hcompletes⟩ hperm
    refine ⟨(htours.perm hperm).congr (.refl _) (.refl _) rfl rfl rfl, hcompletes.prompt,
      fun hended => ?_⟩
    obtain ⟨rfl, hpassed⟩ := hcompletes.ended hended
    exact ⟨List.nil_perm.1 hperm, hpassed⟩
  case start =>
    exact ⟨tours_discoverAll v target self termination k concurrency seeds, by simp⟩
  case schedule =>
    rintro log l fs new hready ⟨htours, hprompt⟩ hnew
    exact ⟨htours.schedule hv hready hnew,
      completes_schedule htours hv hready hunbounded hprompt hnew⟩
  case late =>
    -- nothing is under way any more when such a lookup has ended
    rintro log l f others reply hl ⟨-, hcompletes⟩
    exact absurd (hcompletes.ended hl).1 (by simp)
  case drop =>
    rintro log l f others reply - - ⟨htours, hcompletes⟩ -
    exact ⟨htours.drop reply, late_snoc hcompletes.prompt f reply⟩
  case learn =>
    rintro log l f others reply answer - - ⟨htours, hcompletes⟩ - -
    exact ⟨htours.learn hv reply answer, late_snoc hcompletes.prompt f reply⟩

end Kademlia.Lookup
