import Kademlia.Proofs.Lookup.Discovery

/-!
# Exploring with a finding verb

The invariant of a finding lookup over its runs: which candidates there are and what is known of
them, that passing a candidate means to ask it, and that nobody is asked twice.
-/

namespace Kademlia.Lookup

open Wire Exchange

/-- The requests made, those that landed before those under way. -/
def made (log : List Landing) (fs : List Flight) : List Flight :=
  log.map (·.flight) ++ fs

/-- What a finding lookup gathered from its seeds and from the replies that were taken. -/
structure Explores (v : Verb) (seeds : List Contact) (log : List Landing) (l : Lookup)
    (fs : List Flight) : Prop where
  verb : l.verb = v
  memo : l.state.candidates.Memo
  centre : l.state.candidates.target = l.state.target
  found : l.state.candidates.found =
    (firsts l.state.self (seeds ++ heard v log)).map (informed v log)
  distinct : ((made log fs).map (·.contact.id)).Nodup
  passed : ∀ id, id ∈ l.state.queried ↔ id ∈ (made log fs).map (·.contact.id)
  known : ∀ id ∈ l.state.queried, id ∈ l.state.candidates.found.map (·.id)
  asked : ∀ f ∈ made log fs, ∃ request, ⟨f.contact, request, f.expected⟩ ∈ l.asked ∧
    v.request l.state f.contact = some (request, f.expected)

variable {v : Verb} {seeds : List Contact} {log : List Landing} {start : State} {l l' : Lookup}
  {f : Flight} {fs others new : List Flight}

lemma made_land (log : List Landing) (f : Flight) (reply : Reply) (late : Bool)
    (others : List Flight) : made (log ++ [⟨f, reply, late⟩]) others = made log (f :: others) := by
  simp [made]

lemma mem_made_of_mem {d : Landing} (hd : d ∈ log) (fs : List Flight) : d.flight ∈ made log fs :=
  List.mem_append_left _ (List.mem_map_of_mem hd)

lemma nodup_log_of_made (h : ((made log fs).map (·.contact.id)).Nodup) :
    (log.map (·.flight.contact.id)).Nodup := by
  rw [made, List.map_append, List.map_map] at h
  exact (List.nodup_append.1 h).1

namespace Explores

lemma perm {fs' : List Flight} (h : Explores v seeds log l fs) (hperm : fs.Perm fs') :
    Explores v seeds log l fs' where
  verb := h.verb
  memo := h.memo
  centre := h.centre
  found := h.found
  distinct := ((hperm.append_left _).map (·.contact.id)).nodup_iff.1 h.distinct
  passed := fun id => (h.passed id).trans ((hperm.append_left _).map (·.contact.id)).mem_iff
  known := h.known
  asked := fun f hf => h.asked f ((hperm.append_left _).symm.subset hf)

/-- Nothing else than the candidates, who was passed and who was asked matters. -/
lemma congr (h : Explores v seeds log l fs) (hverb : l'.verb = l.verb)
    (halike : l.state.Alike l'.state) (hmemo : l'.state.candidates.Memo)
    (hcentre : l'.state.candidates.target = l.state.candidates.target)
    (hfound : l'.state.candidates.found = l.state.candidates.found)
    (hqueried : l'.state.queried = l.state.queried) (hasked : l'.asked = l.asked) :
    Explores v seeds log l' fs where
  verb := hverb.trans h.verb
  memo := hmemo
  centre := hcentre.trans (h.centre.trans halike.target.symm)
  found := by rw [hfound, halike.self, h.found]
  distinct := h.distinct
  passed := hqueried ▸ h.passed
  known := by
    rw [hqueried, hfound]
    exact h.known
  asked := fun f hf => by
    rw [hasked, request_congr halike]
    exact h.asked f hf

lemma ne_self (h : Explores v seeds log l fs) {c : Contact} (hc : c ∈ l.state.candidates.found) :
    c.id ≠ l.state.self := by
  rw [h.found] at hc
  obtain ⟨d, hd, rfl⟩ := List.mem_map.1 hc
  rw [id_informed]
  exact ne_self_of_mem_firsts hd

/-- The candidates to consider are the closest ones. -/
lemma next_eq (h : Explores v seeds log l fs) (hv : v.isFinding = true) :
    l.next = l.state.candidates.ranking.take l.state.k := by
  rw [next, h.memo.closest_eq, h.verb, if_pos hv, Option.getD_some]

/-- The candidates are the first contacts of the nodes heard of, with what was said of them. -/
lemma mem_ranking_iff (h : Explores v seeds log l fs) {c : Contact} :
    c ∈ l.state.candidates.ranking ↔
      ∃ d ∈ firsts l.state.self (seeds ++ heard v log), informed v log d = c := by
  rw [(Candidates.ranking_perm _).mem_iff, h.found, List.mem_map]

lemma nodup_log (h : Explores v seeds log l fs) : (log.map (·.flight.contact.id)).Nodup :=
  nodup_log_of_made h.distinct

end Explores

/-! ### Scheduling -/

lemma isSome_request (hv : v.isFinding = true) (s : State) (c : Contact) :
    (v.request s c).isSome = true := by
  cases v <;> simp_all [Verb.isFinding, Verb.request]

/-- Ending a finding lookup computes the order of the candidates and reports. -/
lemma finish_of_finding (hv : l.verb.isFinding = true) :
    l.finish.verb = l.verb ∧
      l.finish.state = { l.state with finished := true, candidates := l.state.candidates.sort } ∧
      l.finish.asked = l.asked ∧
      l.finish.reports = l.reports ++ [(l.verb.finish { l.state with finished := true }).2.2] := by
  unfold finish Verb.finish
  cases hverb : l.verb <;> simp_all [Verb.isFinding, Candidates.closest]

namespace Explores

lemma finish (h : Explores v seeds log l fs) (hv : v.isFinding = true) :
    Explores v seeds log l.finish fs := by
  obtain ⟨hverb, hstate, hasked, -⟩ := finish_of_finding (l := l) (h.verb ▸ hv)
  have hmemo := h.memo.sort
  refine h.congr hverb (alike_finish l) ?_ ?_ ?_ ?_ hasked <;> rw [hstate]
  · exact hmemo
  · exact Candidates.target_sort _
  · exact found_sort _

/-- Passing candidates with a finding verb means to ask them. -/
lemma advance (h : Explores v seeds log l fs) (hv : v.isFinding = true)
    (hnew : List.Forall₂ Flight.Makes new l.advance.2) :
    Explores v seeds log l.advance.1 (fs ++ new) := by
  obtain rfl := h.verb
  have hwalks := walks_advance l
  have hcandidates := candidates_advance l
  have halike := alike_advance l
  have hmade : made log (fs ++ new) = made log fs ++ new := (List.append_assoc _ _ _).symm
  have hids := map_id_of_makes hnew
  have hfound : l.advance.1.state.candidates.found = l.state.candidates.found := by
    rw [hcandidates, found_sort]
  have hpassed (id : Id) : id ∈ l.advance.1.state.queried ↔
      id ∈ l.state.queried ∨ id ∈ new.map (·.contact.id) := by
    rw [hids, List.mem_map]
    constructor
    · intro hid
      rcases hwalks.passed id hid with hid | hid | ⟨c, -, -, hnone⟩
      · exact .inl hid
      · exact .inr hid
      · have hsome := isSome_request hv l.ordered c
        rw [hnone] at hsome
        exact absurd hsome (by simp)
    · rintro (hid | ⟨a, ha, rfl⟩)
      · exact hwalks.mono id hid
      · exact (hwalks.fresh a ha).2
  refine ⟨rfl, ?_, ?_, ?_, ?_, ?_, ?_, ?_⟩
  · rw [hcandidates]
    exact h.memo.sort
  · rw [hcandidates, Candidates.target_sort, h.centre, halike.target]
  · rw [hfound, halike.self, h.found]
  · rw [hmade, List.map_append]
    exact nodup_advance h.distinct (fun id => (h.passed id).2) hnew
  · intro id
    rw [hpassed, h.passed, hmade, List.map_append, List.mem_append]
  · intro id hid
    rw [hfound]
    rcases (hpassed id).1 hid with hid | hid
    · exact h.known id hid
    · rw [hids] at hid
      obtain ⟨a, ha, rfl⟩ := List.mem_map.1 hid
      exact List.mem_map.2 ⟨a.contact, mem_of_mem_closest (hwalks.asked a ha).1, rfl⟩
  · intro f hf
    rw [hmade] at hf
    rw [request_congr halike]
    rcases List.mem_append.1 hf with hf | hf
    · obtain ⟨request, hmem, hrequest⟩ := h.asked f hf
      exact ⟨request, List.mem_append_left _ hmem, hrequest⟩
    · obtain ⟨a, ha, hmakes⟩ := exists_ask_of_makes hnew hf
      refine ⟨a.request, ?_, ?_⟩
      · rw [hmakes.contact, hmakes.expected]
        exact List.mem_append_right _ ha
      · rw [hmakes.contact, hmakes.expected, ← request_congr (alike_ordered l)]
        exact (hwalks.asked a ha).2.2

lemma schedule (h : Explores v seeds log l fs) (hv : v.isFinding = true)
    (hready : Ready start l fs) (hnew : List.Forall₂ Flight.Makes new (schedule l).2) :
    Explores v seeds log (schedule l).1 (fs ++ new) := by
  rcases hready.schedule_cases hnew with ⟨-, heq, hsame⟩ | ⟨-, -, heq, hsame⟩ |
    ⟨-, -, hnew, ⟨-, heq⟩ | ⟨-, heq⟩⟩
  all_goals rw [heq]
  · rw [hsame]
    exact h.finish hv
  · rw [hsame]
    exact h
  · exact (h.advance hv hnew).finish hv
  · exact h.advance hv hnew

end Explores

/-! ### Taking in replies -/

namespace Explores

/-- A landing that says nothing leaves everything as it is. -/
lemma silent (h : Explores v seeds log l (f :: others)) {reply : Reply} {late : Bool}
    (hsilent : (Landing.mk f reply late).answer? v = none) :
    Explores v seeds (log ++ [⟨f, reply, late⟩]) l others where
  verb := h.verb
  memo := h.memo
  centre := h.centre
  found := by
    rw [h.found, heard_snoc, Landing.listed, hsilent, List.append_nil]
    refine List.map_congr_left fun c _ => ?_
    rw [informed_snoc, Landing.tell, hsilent]
  distinct := made_land log f reply late others ▸ h.distinct
  passed := made_land log f reply late others ▸ h.passed
  known := h.known
  asked := made_land log f reply late others ▸ h.asked

lemma drop (h : Explores v seeds log l (f :: others)) {reply : Reply} {e : CallError}
    (hparse : v.parse reply = .error e) :
    Explores v seeds (log ++ [⟨f, reply, false⟩]) (l.drop f) others := by
  have hsilent : (Landing.mk f reply false).answer? v = none := by
    rw [Landing.answer?, hparse]
    rfl
  exact (h.silent hsilent).congr rfl ⟨rfl, rfl, rfl, rfl, rfl⟩ h.memo rfl rfl rfl rfl

end Explores

/-- The state once what an answer says of its author is noted. -/
def note (l : Lookup) (f : Flight) (answer : l.verb.Answer) : State :=
  { (l.drop f).state with
    answered := f.contact.id :: l.state.answered
    candidates := l.state.candidates.modify f.contact.id (l.verb.tell answer) }

lemma found_note (l : Lookup) (f : Flight) (answer : l.verb.Answer) :
    (l.note f answer).candidates.found = l.state.candidates.found.map
      fun c => if c.id = f.contact.id then l.verb.tell answer c else c :=
  Candidates.found_modify_of_id _ _ (l.verb.id_tell answer)

/-- A finding lookup learns what an answer says of its author, and then whom it lists. -/
lemma learn_of_finding (hv : l.verb.isFinding = true) {reply : Reply} {answer : l.verb.Answer}
    (hparse : l.verb.parse reply = .ok answer)
    (hauthor : ∀ r, reply = .ok r → authorOf r.payload = some f.contact.id) :
    l.learn f answer =
      { l with state := (l.note f answer).discoverAll (l.verb.listed answer) } := by
  obtain ⟨verb, state, flights, asked, reports⟩ := l
  cases verb with
  | findNode =>
    obtain ⟨⟨r, hr, hrequire⟩, -⟩ := parse_findNode hparse
    have hid := eq_of_require_id hrequire (hauthor r hr)
    simp only [learn, Verb.process, hid, List.append_nil]
    rfl
  | findValue =>
    obtain ⟨⟨r, hr, hrequire⟩, -⟩ := parse_findValue hparse
    have hid := eq_of_require_id hrequire (hauthor r hr)
    simp only [learn, Verb.process, hid, List.append_nil]
    rfl
  | getValue seen => simp [Verb.isFinding] at hv
  | storeValue value acknowledged => simp [Verb.isFinding] at hv

namespace Explores

lemma learn (h : Explores v seeds log l (f :: others)) (hv : v.isFinding = true) {reply : Reply}
    {answer : l.verb.Answer} (hparse : l.verb.parse reply = .ok answer)
    (hauthor : ∀ r, reply = .ok r → authorOf r.payload = some f.contact.id) :
    Explores v seeds (log ++ [⟨f, reply, false⟩]) (l.learn f answer) others := by
  obtain rfl := h.verb
  have hanswer : (Landing.mk f reply false).answer? l.verb = some answer := by
    rw [Landing.answer?, hparse]
    rfl
  have halike := alike_learn l f answer
  have hids : (l.note f answer).candidates.found.map (·.id) =
      l.state.candidates.found.map (·.id) := Candidates.map_id_modify _ _ _
  have hnoted : (l.note f answer).candidates.found =
      (firsts (l.note f answer).self (seeds ++ heard l.verb log)).map
        (informed l.verb (log ++ [⟨f, reply, false⟩])) := by
    rw [found_note, h.found, List.map_map]
    refine List.map_congr_left fun c _ => ?_
    rw [informed_snoc, Landing.tell, hanswer]
    rfl
  -- whoever landed was passed, so nothing was said yet of a contact that is new
  have hland (d : Landing) (hd : d ∈ log ++ [⟨f, reply, false⟩]) :
      d.flight.contact.id ∈ (l.note f answer).candidates.found.map (·.id) := by
    rw [hids]
    refine h.known _ ((h.passed _).2 ?_)
    rw [← made_land log f reply false others]
    exact List.mem_map.2 ⟨d.flight, mem_made_of_mem hd others, rfl⟩
  have hfound := found_discoverAll (id_informed l.verb _) hnoted (l.verb.listed answer)
    fun c _ hnot => informed_of_notMem fun d hd heq => hnot (heq ▸ hland d hd)
  have hlearn := learn_of_finding hv hparse hauthor
  have hqueried : (l.learn f answer).state.queried = l.state.queried := by
    obtain ⟨candidates, hstate⟩ := learn_eq l f answer
    rw [hstate]
    rfl
  refine ⟨?_, ?_, ?_, ?_, ?_, ?_, ?_, ?_⟩
  · rw [hlearn]
  · rw [hlearn]
    exact State.memo_discoverAll (h.memo.modify _ _) _
  · rw [halike.target, ← h.centre, hlearn]
    exact (State.centre_discoverAll _ _).trans (Candidates.target_modify _ _ _)
  · rw [halike.self, heard_snoc, Landing.listed, hanswer, hlearn, ← List.append_assoc]
    exact hfound
  · exact made_land log f reply false others ▸ h.distinct
  · rw [hqueried]
    exact made_land log f reply false others ▸ h.passed
  · rw [hqueried, hlearn]
    exact fun id hid => List.map_subset _ (State.found_discoverAll_subset _ _)
      (hids ▸ h.known id hid)
  · rw [made_land]
    intro g hg
    rw [request_congr halike, hlearn]
    exact h.asked g hg

end Explores

/-! ### Runs -/

section Runs

variable {target self : Id} {termination : Termination} {k concurrency : Nat} {s : Sweep}

lemma explores_discoverAll (v : Verb) (target self : Id) (termination : Termination)
    (k concurrency : Nat) (seeds : List Contact) :
    Explores v seeds []
      (.new v ((State.new target self termination k concurrency).discoverAll seeds)) [] := by
  have halike := (State.new target self termination k concurrency).alike_discoverAll seeds
  have hfound : ((State.new target self termination k concurrency).discoverAll
      seeds).candidates.found = (firsts self ([] ++ seeds)).map (informed v []) :=
    found_discoverAll (fun c => id_informed v [] c) rfl seeds fun _ _ _ => rfl
  refine ⟨rfl, State.memo_discoverAll (Candidates.Memo.empty target) seeds, ?_, ?_,
    List.nodup_nil, ?_, ?_, ?_⟩
  · exact (State.centre_discoverAll _ _).trans halike.target.symm
  · have hself : ((State.new target self termination k concurrency).discoverAll seeds).self = self :=
      halike.self
    simp only [new, hself]
    simpa [heard] using hfound
  · simp [new, State.new, made]
  · simp [new, State.new]
  · simp [made]

/-- A finding lookup explores in every sweep of a run. -/
lemma Passes.explores (hv : v.isFinding = true)
    (h : Passes (.new v (.new target self termination k concurrency)) seeds log s) :
    Explores v seeds log s.lookup (s.kept ++ s.rest) := by
  refine (h.induct_scheduled (P := Explores v seeds) (Q := Explores v seeds)
    ?congr ?start ?schedule ?late ?drop ?learn).2.2
  case congr =>
    intro log l flights fs fs' h hperm
    exact (h.perm hperm).congr rfl (.refl _) h.memo rfl rfl rfl rfl
  case start =>
    exact explores_discoverAll v target self termination k concurrency seeds
  case schedule =>
    intro log l fs new hready h hnew
    exact h.schedule hv hready hnew
  case late =>
    intro log l f others reply _ h
    exact h.silent rfl
  case drop =>
    rintro log l f others reply - - h ⟨e, hparse⟩
    exact h.drop (h.verb ▸ hparse)
  case learn =>
    intro log l f others reply answer _ _ h hparse hauthor
    exact h.learn hv hparse hauthor

end Runs

end Kademlia.Lookup
