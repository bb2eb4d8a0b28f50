import Kademlia.Proofs.Lookup.Ending
import Kademlia.Proofs.Lookup.Storing

/-!
# Tokens that were handed out

A lookup of the nodes closest to a key learns their tokens, and a second one stores a value at them.
Each request of the second one goes to a contact that the first one asked, and carries the token which
that contact handed out then, in a response of its own.
-/

namespace Kademlia.Lookup

open Wire Exchange

/-- Is this an answer of the contact that was asked, in time? -/
def Landing.Answers {α : Type} [Payload α] (d : Landing) (answer : α) : Prop :=
  d.late = false ∧ Call.parse α d.reply = .ok answer ∧
    ∃ r, d.reply = .ok r ∧ authorOf r.payload = some d.flight.contact.id

/-- Is a contact among the `k` ones closest to a key? -/
def Closest (k : Nat) (key : Id) (known : List Contact) (c : Contact) : Prop :=
  c ∈ known ∧ (known.countP fun d => (d.id.xor key).toNat < (c.id.xor key).toNat) < k

/-- Every response that is taken in is one of the contact that was asked. -/
lemma Passes.verified {l : Lookup} {seeds : List Contact} {log : List Landing} {s : Sweep}
    (h : Passes l seeds log s) :
    ∀ d ∈ log, ∀ r, d.reply = .ok r → authorOf r.payload = some d.flight.contact.id := by
  refine (Passes.induct (P := fun log _ _ => ∀ d ∈ log, ∀ r, d.reply = .ok r →
    authorOf r.payload = some d.flight.contact.id) ?congr ?start ?land h).1
  case congr => exact fun _ _ _ _ _ h _ => h
  case start => simp
  case land =>
    intro log l f others new reply h hauthor _
    exact List.forall_mem_append.2 ⟨h, List.forall_mem_singleton.2 hauthor⟩

/-! ### Who is asked -/

section Finding

variable {v : Verb} {target self : Id} {termination : Termination} {k concurrency : Nat}
  {seeds : List Contact} {log : List Landing} {start : State} {l : Lookup} {fs new : List Flight}
  {s : Sweep}

/-- Whoever is heard of first stays the first one. -/
lemma firsts_subset_append (self : Id) (cs ds : List Contact) :
    firsts self cs ⊆ firsts self (cs ++ ds) := by
  intro c hc
  obtain ⟨hself, hfind⟩ := mem_firsts_iff.1 hc
  exact mem_firsts_iff.2 ⟨hself, by rw [List.find?_append, hfind, Option.some_or]⟩

/-- A candidate that was not asked yet is as it was first heard of. -/
lemma Explores.mem_firsts_of_notMem (h : Explores v seeds log l fs) {c : Contact}
    (hc : c ∈ l.state.candidates.found) (hid : c.id ∉ l.state.queried) :
    c ∈ firsts l.state.self (seeds ++ heard v log) := by
  rw [h.found] at hc
  obtain ⟨d, hd, rfl⟩ := List.mem_map.1 hc
  rw [id_informed] at hid
  rwa [informed_of_notMem fun e he heq => hid ((h.passed _).2 ?_)]
  exact List.mem_map.2 ⟨e.flight, mem_made_of_mem he fs, heq⟩

/-- Fewer than `k` of the nodes heard of are closer than one of those to consider. -/
lemma Explores.countP_firsts_lt (h : Explores v seeds log l fs) (hv : v.isFinding = true) {c : Contact}
    (hc : c ∈ l.next) :
    ((firsts l.state.self (seeds ++ heard v log)).countP fun d =>
      (d.id.xor l.state.target).toNat < (c.id.xor l.state.target).toNat) < l.state.k := by
  rw [h.next_eq hv] at hc
  have hcloser := Candidates.countP_closer_lt hc
  rw [h.found, List.countP_map, h.centre] at hcloser
  simpa only [Function.comp_def, id_informed] using hcloser

/-- Whoever is asked is as first heard of. -/
lemma Explores.new_firsts (h : Explores v seeds log l fs) (hready : Ready start l fs)
    (hnew : List.Forall₂ Flight.Makes new (Lookup.schedule l).2) :
    ∀ f ∈ new, f.contact ∈ firsts l.state.self (seeds ++ heard v log) := by
  intro f hf
  rcases hready.schedule_cases hnew with ⟨-, -, hsame⟩ | ⟨-, -, -, hsame⟩ | ⟨-, -, hnew, -⟩
  · rw [List.append_right_eq_self.1 hsame] at hf
    exact absurd hf List.not_mem_nil
  · rw [List.append_right_eq_self.1 hsame] at hf
    exact absurd hf List.not_mem_nil
  · obtain ⟨a, ha, hmakes⟩ := exists_ask_of_makes hnew hf
    have hwalks := walks_advance l
    rw [hmakes.contact]
    exact h.mem_firsts_of_notMem (mem_of_mem_closest (hwalks.asked a ha).1) (hwalks.fresh a ha).1

/-- What holds of whoever is asked when it is asked, and goes on holding when more replies are taken, holds
of all that a finding lookup asked in a run. -/
theorem Passes.induct_made {P : List Landing → Contact → Prop} (hv : v.isFinding = true)
    (more : ∀ log d c, P log c → P (log ++ [d]) c)
    (ask : ∀ log c, (∀ d ∈ log, P log d.flight.contact) → c ∈ firsts self (seeds ++ heard v log) →
      P log c)
    (h : Passes (.new v (.new target self termination k concurrency)) seeds log s) :
    ∀ f ∈ made log (s.kept ++ s.rest), P log f.contact := by
  refine (h.induct_scheduled
    (P := fun log l fs => (Explores v seeds log l fs ∧ l.state.self = self) ∧
      ∀ f ∈ made log fs, P log f.contact)
    (Q := fun log l fs => (Explores v seeds log l fs ∧ l.state.self = self) ∧
      ∀ f ∈ made log fs, P log f.contact)
    ?congr ?start ?schedule ?late ?drop ?learn).2.2.2
  case congr =>
    rintro log l flights fs fs' ⟨⟨h, hself⟩, hmade⟩ hperm
    exact ⟨⟨(h.perm hperm).congr rfl (.refl _) h.memo rfl rfl rfl rfl, hself⟩,
      fun f hf => hmade f ((hperm.append_left _).symm.subset hf)⟩
  case start =>
    exact ⟨⟨explores_discoverAll v target self termination k concurrency seeds,
      (State.alike_discoverAll _ seeds).self⟩, by simp [made]⟩
  case schedule =>
    rintro log l fs new hready ⟨⟨h, hself⟩, hmade⟩ hnew
    refine ⟨⟨h.schedule hv hready hnew, (alike_schedule hready.going).self.trans hself⟩, ?_⟩
    rw [made, ← List.append_assoc]
    refine List.forall_mem_append.2 ⟨hmade, fun f hf => ask log f.contact ?_ ?_⟩
    · exact fun d hd => hmade _ (mem_made_of_mem hd fs)
    · exact hself ▸ h.new_firsts hready hnew f hf
  case late =>
    rintro log l f others reply - ⟨⟨h, hself⟩, hmade⟩
    refine ⟨⟨h.silent rfl, hself⟩, ?_⟩
    rw [made_land]
    exact fun g hg => more log _ _ (hmade g hg)
  case drop =>
    rintro log l f others reply - - ⟨⟨h, hself⟩, hmade⟩ ⟨e, hparse⟩
    refine ⟨⟨h.drop (h.verb ▸ hparse), hself⟩, ?_⟩
    rw [made_land]
    exact fun g hg => more log _ _ (hmade g hg)
  case learn =>
    rintro log l f others reply answer - - ⟨⟨h, hself⟩, hmade⟩ hparse hauthor
    refine ⟨⟨h.learn hv hparse hauthor, (alike_learn l f answer).self.trans hself⟩, ?_⟩
    rw [made_land]
    exact fun g hg => more log _ _ (hmade g hg)

/-- In every run whoever a finding lookup asks is as first heard of, by the seeds or by an answer. -/
lemma Passes.mem_firsts_of_made (hv : v.isFinding = true)
    (h : Passes (.new v (.new target self termination k concurrency)) seeds log s) :
    ∀ f ∈ made log (s.kept ++ s.rest), f.contact ∈ firsts self (seeds ++ heard v log) := by
  refine h.induct_made (P := fun log c => c ∈ firsts self (seeds ++ heard v log)) hv ?_ ?_
  · intro log d c hc
    rw [heard_snoc, ← List.append_assoc]
    exact firsts_subset_append _ _ _ hc
  · exact fun _ _ _ hc => hc

/-! ### Whose tokens are known -/

/-- A contact to consider that has a token is one of the closest and was asked, and it handed that token
out in its answer. -/
lemma Passes.handed (hseeds : ∀ c ∈ seeds, c.token = none)
    (h : Passes (.new .findNode (.new target self termination k concurrency)) seeds log s)
    {c : Contact} (hc : c ∈ s.lookup.next) {token : Bytes} (htoken : c.token = some token) :
    ∃ d ∈ log, ∃ answer : FindNode.Answer, d.Answers answer ∧ answer.token = token ∧ token ≠ [] ∧
      Closest k target (firsts self (seeds ++ heard .findNode log)) d.flight.contact ∧
      c = { d.flight.contact with token := some token } := by
  obtain ⟨-, halike⟩ := h.running
  have hexplores := h.explores rfl
  have hself : s.lookup.state.self = self := halike.self
  have hcloser := hexplores.countP_firsts_lt rfl hc
  rw [halike.target, halike.k, hself] at hcloser
  rw [hexplores.next_eq rfl] at hc
  obtain ⟨e, he, rfl⟩ := hexplores.mem_ranking_iff.1 (List.mem_of_mem_take hc)
  rw [hself] at he
  obtain ⟨hne, d, hd, hlate, hid, answer, hparse, rfl⟩ :=
    (token_informed_iff hexplores.nodup_log (token_of_mem_firsts hseeds he) token).1 htoken
  obtain rfl : d.flight.contact = e :=
    eq_of_mem_firsts (h.mem_firsts_of_made rfl _ (mem_made_of_mem hd _)) he hid
  rw [id_informed] at hcloser
  obtain ⟨r, hr, -⟩ := parse_eq_ok hparse
  refine ⟨d, hd, answer, ⟨hlate, hparse, r, hr, h.verified d hd r hr⟩, rfl, hne, ⟨he, hcloser⟩, ?_⟩
  rw [← htoken]
  exact informed_findNode log _

/-- An exhaustive lookup reports the contacts to consider. -/
lemma Passes.reports_findNode
    (h : Passes (.new .findNode (.new target self .exhaustive k concurrency)) seeds log s)
    (hfinished : s.lookup.state.finished = true) :
    s.lookup.reports = [.contacts s.lookup.next] := by
  rw [((h.exhausts rfl).ended hfinished).2.1, next, (h.explores rfl).verb]
  rfl

end Finding

/-! ### Who acknowledged -/

/-- The replies that were taken before the lookup had ended. -/
def timely (log : List Landing) : List Landing :=
  log.filter fun d => !d.late

/-- A lookup that stores a value gathers the contacts that acknowledged, and reports them. -/
structure Collects (value : Bytes) (log : List Landing) (l : Lookup) : Prop where
  verb : l.state.finished = false → l.verb = .storeValue value (acknowledged (timely log))
  reports : l.reports =
    if l.state.finished then [.contacts (acknowledged (timely log))] else []

section Storing

variable {value : Bytes} {target self : Id} {termination : Termination} {k concurrency : Nat}
  {seeds : List Contact} {log : List Landing} {start : State} {l : Lookup} {f : Flight}
  {fs : List Flight} {s : Sweep}

lemma timely_snoc (log : List Landing) (f : Flight) (reply : Reply) :
    timely (log ++ [⟨f, reply, false⟩]) = timely log ++ [⟨f, reply, false⟩] := by
  simp [timely]

lemma timely_late (log : List Landing) (f : Flight) (reply : Reply) :
    timely (log ++ [⟨f, reply, true⟩]) = timely log := by
  simp [timely]

namespace Collects

lemma finish (h : Collects value log l) (hl : l.state.finished = false) :
    Collects value log l.finish := by
  have hended := finished_finish l
  have hreports := h.reports
  rw [hl, if_neg Bool.false_ne_true] at hreports
  refine ⟨fun hopen => absurd (hended.symm.trans hopen) (by simp), ?_⟩
  rw [hended, if_pos rfl]
  simp [Lookup.finish, h.verb hl, Verb.finish, hreports]

lemma advance (h : Collects value log l) : Collects value log l.advance.1 := by
  have hsame := finished_advance l
  refine ⟨fun hopen => h.verb (hsame.symm.trans hopen), ?_⟩
  rw [hsame]
  exact h.reports

lemma schedule (h : Collects value log l) (hl : l.state.finished = false) :
    Collects value log (schedule l).1 := by
  rcases schedule_cases hl with ⟨-, heq⟩ | ⟨-, -, heq⟩ | ⟨-, -, ⟨-, heq⟩ | ⟨-, heq⟩⟩
  all_goals rw [heq]
  · exact h.finish hl
  · exact h
  · exact h.advance.finish ((finished_advance l).trans hl)
  · exact h.advance

lemma drop (h : Collects value log l) (hl : l.state.finished = false) {reply : Reply} {e : CallError}
    (hparse : l.verb.parse reply = .error e) :
    Collects value (log ++ [⟨f, reply, false⟩]) (l.drop f) := by
  rw [h.verb hl] at hparse
  have hparse' : Call.parse StoreValue.Answer reply = .error e := hparse
  have hnone : acknowledged (timely (log ++ [⟨f, reply, false⟩])) = acknowledged (timely log) := by
    rw [timely_snoc, acknowledged_snoc, Landing.acknowledges, hparse']
    exact List.append_nil _
  exact ⟨hnone.symm ▸ h.verb, hnone.symm ▸ h.reports⟩

lemma learn (h : Collects value log l) (hl : l.state.finished = false) {reply : Reply}
    {answer : l.verb.Answer} (hparse : l.verb.parse reply = .ok answer) :
    Collects value (log ++ [⟨f, reply, false⟩]) (l.learn f answer) := by
  have hopen := (finished_learn l f answer).trans hl
  have hverb := h.verb hl
  have hreports := h.reports
  obtain ⟨verb, state, flights, asked, reports⟩ := l
  obtain rfl := hverb
  have hmore : acknowledged (timely (log ++ [⟨f, reply, false⟩])) =
      acknowledged (timely log) ++ [f.contact] := by
    have hparse' : Call.parse StoreValue.Answer reply = .ok answer := hparse
    rw [timely_snoc, acknowledged_snoc, Landing.acknowledges, hparse']
    rfl
  refine ⟨fun _ => by rw [hmore]; rfl, ?_⟩
  rw [hopen, if_neg Bool.false_ne_true]
  rw [hl, if_neg Bool.false_ne_true] at hreports
  simp [Lookup.learn, Verb.process, hreports]

end Collects

lemma Passes.collects
    (h : Passes (.new (.storeValue value []) (.new target self termination k concurrency)) seeds log s) :
    Collects value log s.lookup := by
  refine (h.induct_scheduled (P := fun log l _ => Collects value log l)
    (Q := fun log l _ => Collects value log l) ?congr ?start ?schedule ?late ?drop ?learn).2.2
  case congr => exact fun _ _ _ _ _ h _ => ⟨h.verb, h.reports⟩
  case start =>
    have hopen : ((State.new target self termination k concurrency).discoverAll seeds).finished =
        false := State.finished_discoverAll _ seeds
    exact ⟨fun _ => rfl, by rw [Lookup.new, hopen]; rfl⟩
  case schedule => exact fun _ _ _ _ hready h _ => h.schedule hready.going
  case late =>
    intro log l f others reply _ h
    have hsame := timely_late log f reply
    exact ⟨hsame.symm ▸ h.verb, hsame.symm ▸ h.reports⟩
  case drop =>
    rintro log l f others reply - hl h ⟨e, hparse⟩
    exact h.drop hl hparse
  case learn =>
    intro log l f others reply answer _ hl h hparse _
    exact h.learn hl hparse

/-- Whoever is among those that acknowledged was asked, and answered in time. -/
lemma Passes.answered_of_mem_acknowledged
    (h : Passes (.new (.storeValue value []) (.new target self termination k concurrency)) seeds log s)
    {c : Contact} (hc : c ∈ acknowledged (timely log)) :
    ∃ d ∈ log, d.flight.contact = c ∧ (∃ answer : StoreValue.Answer, d.Answers answer) ∧
      ∃ a ∈ s.lookup.asked, d.flight.Makes a := by
  obtain ⟨d, hd, hcontact, answer, hparse⟩ := mem_acknowledged_iff.1 hc
  obtain ⟨hd, hlate⟩ := List.mem_filter.1 hd
  obtain ⟨r, hr, -⟩ := parse_eq_ok hparse
  exact ⟨d, hd, hcontact, ⟨answer, by simpa using hlate, hparse, r, hr, h.verified d hd r hr⟩,
    (h.tours rfl).requested d.flight (mem_made_of_mem hd _)⟩

end Storing

/-! ### One lookup after the other -/

/-- Is this a request to store a value at one of the `k` known contacts closest to its key, with the
token that this contact handed out in a reply to another lookup? -/
def Ask.Redeems (a : Ask) (key : Id) (value : Bytes) (k : Nat) (known : List Contact)
    (log : List Landing) : Prop :=
  ∃ d ∈ log, ∃ answer : FindNode.Answer, d.Answers answer ∧ answer.token ≠ [] ∧
    Closest k key known d.flight.contact ∧
    a = ⟨{ d.flight.contact with token := some answer.token }, .storeValue key value answer.token, 1⟩

section Both

variable {key self self' : Id} {value : Bytes} {termination : Termination}
  {k concurrency k' concurrency' : Nat} {seeds : List Contact} {log log' : List Landing} {s s' : Sweep}

/-- What a lookup asks of the contacts that another one reported redeems the tokens of these. -/
lemma Passes.redeems (hseeds : ∀ c ∈ seeds, c.token = none)
    (h : Passes (.new .findNode (.new key self termination k concurrency)) seeds log s)
    {termination' : Termination}
    (h' : Passes (.new (.storeValue value []) (.new key self' termination' k' concurrency'))
      s.lookup.next log' s') :
    ∀ a ∈ s'.lookup.asked,
      a.Redeems key value k (firsts self (seeds ++ heard .findNode log)) log := by
  intro a ha
  have htours := h'.tours rfl
  obtain ⟨-, halike⟩ := h'.running
  obtain ⟨token, htoken, hrequest, hexpected⟩ := htours.request_storeValue ha
  obtain ⟨d, hd, answer, hanswers, rfl, hne, hclosest, hcontact⟩ :=
    h.handed hseeds (mem_of_mem_firsts (htours.asked a ha).1) htoken
  refine ⟨d, hd, answer, hanswers, hne, hclosest, ?_⟩
  obtain ⟨contact, request, expected⟩ := a
  obtain rfl : contact = _ := hcontact
  obtain rfl : expected = 1 := hexpected
  rw [show request = _ from hrequest, halike.target]
  rfl

/-- Nobody is asked who handed out no token in time. -/
lemma Ask.Redeems.ne (h : Passes (.new .findNode (.new key self termination k concurrency)) seeds log s)
    {a : Ask} {known : List Contact} (ha : a.Redeems key value k known log) {d : Landing}
    (hd : d ∈ log) (hnone : ∀ answer : FindNode.Answer, d.Answers answer → answer.token = []) :
    a.contact.id ≠ d.flight.contact.id := by
  obtain ⟨e, he, answer, hanswers, hne, -, rfl⟩ := ha
  intro hid
  obtain rfl : e = d := List.inj_on_of_nodup_map (h.explores rfl).nodup_log he hd hid
  exact hne (hnone answer hanswers)

end Both

end Kademlia.Lookup
