import Kademlia.Proofs.Lookup.Fetching
import Kademlia.Proofs.Lookup.Tour

/-!
# Which values a fetch gathers

A fetch gathers what was known and all values of the answers that come in time, whatever ends it. If
nothing ends it early it asks every candidate that announced values for all of them, so what it
gathers does not depend on the order in which they answer.
-/

namespace Kademlia.Lookup

open Wire Exchange

/-! ### The values of answers -/

/-- The values a landing brings, unless it comes late. -/
def Landing.values (d : Landing) : List Bytes :=
  match d.answer? (.getValue []) with
  | some (a : GetValue.Answer) => a.values
  | none => []

/-- All values of the answers that came in time. -/
def gathered (log : List Landing) : List Bytes :=
  log.flatMap (·.values)

/-- The values a fetch does not report any more. -/
def Verb.seen : Verb → List Bytes
  | getValue seen => seen
  | _ => []

variable {known : List Bytes} {log : List Landing} {l : Lookup} {batches : List (List Bytes)} {v : Bytes}

lemma Landing.mem_values_iff {d : Landing} :
    v ∈ d.values ↔ d.late = false ∧ ∃ a, Call.parse GetValue.Answer d.reply = .ok a ∧ v ∈ a.values := by
  rw [Landing.values, Landing.answer?]
  cases d.late with
  | true => simp
  | false =>
    simp only [Bool.false_eq_true, if_false, Verb.parse, true_and]
    cases h : Call.parse GetValue.Answer d.reply <;> simp [Except.toOption]

lemma mem_gathered_iff :
    v ∈ gathered log ↔ ∃ d ∈ log, d.late = false ∧
      ∃ a, Call.parse GetValue.Answer d.reply = .ok a ∧ v ∈ a.values := by
  simp only [gathered, List.mem_flatMap, Landing.mem_values_iff]

lemma freshValues_of_disjoint {seen vs : List Bytes} (hvs : vs.Nodup) (h : ∀ v ∈ vs, v ∉ seen) :
    freshValues seen vs = vs := by
  induction vs generalizing seen with
  | nil => rfl
  | cons v vs ih =>
    obtain ⟨hv, hvs⟩ := List.nodup_cons.1 hvs
    rw [freshValues, if_neg (h v List.mem_cons_self), ih hvs]
    intro w hw hmem
    rcases List.mem_cons.1 hmem with rfl | hmem
    · exact hv hw
    · exact h w (List.mem_cons_of_mem v hw) hmem

/-! ### Runs -/

/-- A fetch has seen what was known, and what the answers brought that came in time. -/
def Gathers (known : List Bytes) (log : List Landing) (l : Lookup) : Prop :=
  ∀ v, v ∈ l.verb.seen ↔ v ∈ known ∨ v ∈ gathered log

variable {key self : Id} {termination : Termination} {k concurrency : Nat} {seeds : List Contact}
  {s : Sweep}

lemma Gathers.learn (h : Gathers known log l) (hl : l.verb = .getValue l.verb.seen) {f : Flight}
    {reply : Reply} {answer : l.verb.Answer} (hparse : l.verb.parse reply = .ok answer) :
    Gathers known (log ++ [⟨f, reply, false⟩]) (l.learn f answer) := by
  obtain ⟨verb, state, flights, asked, reports⟩ := l
  generalize hseen : verb.seen = seen at hl
  obtain rfl := hl
  intro v
  have hvalues : v ∈ (Landing.mk f reply false).values ↔ v ∈ answer.values := by
    have hparse' : Call.parse GetValue.Answer reply = .ok answer := hparse
    rw [Landing.mem_values_iff, hparse']
    constructor
    · rintro ⟨-, a, ha, hv⟩
      obtain rfl := Except.ok.inj ha
      exact hv
    · exact fun hv => ⟨rfl, answer, rfl, hv⟩
  have hsplit : v ∈ gathered (log ++ [⟨f, reply, false⟩]) ↔ v ∈ gathered log ∨ v ∈ answer.values := by
    rw [← hvalues]
    simp [gathered]
  have hmore : v ∈ (Lookup.learn ⟨.getValue seen, state, flights, asked, reports⟩ f answer).verb.seen ↔
      v ∈ seen ∨ v ∈ answer.values := by
    change v ∈ seen ++ freshValues seen answer.values ↔ _
    rw [List.mem_append, mem_freshValues]
    by_cases hv : v ∈ seen <;> simp [hv]
  rw [hmore, hsplit, ← or_assoc]
  exact or_congr_left (h v)

/-- A reply that is no answer, or comes late, brings no values. -/
lemma gathered_silent {d : Landing} (h : d.values = []) : gathered (log ++ [d]) = gathered log := by
  simp [gathered, h]

lemma gathers_discoverAll (known : List Bytes) (key self : Id) (termination : Termination)
    (k concurrency : Nat) (seeds : List Contact) :
    Gathers known []
      (.new (.fetch known) ((State.new key self termination k concurrency).discoverAll seeds)) := by
  intro v
  simp [new, Verb.fetch, Verb.seen, mem_freshValues, gathered]

lemma Gathers.drop (h : Gathers known log l) (hl : l.verb = .getValue l.verb.seen) {f : Flight}
    {reply : Reply} {e : CallError} (hparse : l.verb.parse reply = .error e) :
    Gathers known (log ++ [⟨f, reply, false⟩]) (l.drop f) := by
  have hsilent : (Landing.mk f reply false).values = [] := by
    rw [hl] at hparse
    have hparse' : Call.parse GetValue.Answer reply = .error e := hparse
    simp [Landing.values, Landing.answer?, Verb.parse, hparse', Except.toOption]
  rw [Gathers, gathered_silent hsilent]
  exact h

/-- A fetch knows what it has seen. -/
lemma Fetches.verb_seen {count : Nat} (h : Fetches known count batches l) :
    l.verb = .getValue l.verb.seen := by
  rw [h.verb]
  rfl

lemma Passes.gathers
    (h : Passes (.new (.fetch known) (.new key self termination k concurrency)) seeds log s) :
    (∃ batches, Fetches known 0 batches s.lookup) ∧ Gathers known log s.lookup := by
  refine (h.induct_scheduled
    (P := fun log l _ => (∃ batches, Fetches known 0 batches l) ∧ Gathers known log l)
    (Q := fun log l _ => (∃ batches, Fetches known 0 batches l) ∧ Gathers known log l)
    ?congr ?start ?schedule ?late ?drop ?learn).2.2
  case congr =>
    rintro log l flights fs fs' ⟨⟨batches, hfetches⟩, hgathers⟩ -
    exact ⟨⟨batches, hfetches.congr rfl hfetches.reports⟩, hgathers⟩
  case start =>
    exact ⟨⟨[], fetches_discoverAll known 0 key self termination k concurrency seeds⟩,
      gathers_discoverAll known key self termination k concurrency seeds⟩
  case schedule =>
    rintro log l fs new hready ⟨⟨batches, hfetches⟩, hgathers⟩ -
    obtain ⟨hscheduled, -⟩ := hfetches.schedule hready.going
    refine ⟨⟨batches, hscheduled⟩, ?_⟩
    rw [Gathers, hscheduled.verb, ← hfetches.verb]
    exact hgathers
  case late =>
    rintro log l f others reply - ⟨hfetches, hgathers⟩
    refine ⟨hfetches, ?_⟩
    rw [Gathers, gathered_silent (d := ⟨f, reply, true⟩) rfl]
    exact hgathers
  case drop =>
    rintro log l f others reply - hl ⟨⟨batches, hfetches⟩, hgathers⟩ ⟨e, hparse⟩
    exact ⟨⟨batches, hfetches.congr rfl hfetches.reports⟩, hgathers.drop hfetches.verb_seen hparse⟩
  case learn =>
    rintro log l f others reply answer - hl ⟨⟨batches, hfetches⟩, hgathers⟩ hparse -
    exact ⟨hfetches.learn hl (by simp) f answer, hgathers.learn hfetches.verb_seen hparse⟩

/-! ### The stream of values -/

/-- The messages about the values of a key, after some replies were taken: first the values that were
known, if there are any, then batches of new ones, and an empty batch at the end. No value is in it
twice, and none is left out. -/
structure ValueStream (known : List Bytes) (log : List Landing) (ended : Bool)
    (messages : List (List Bytes)) : Prop where
  shape : ∃ batches, (∀ b ∈ batches, b ≠ []) ∧
    messages = (if known = [] then [] else [known]) ++ batches ++ if ended then [[]] else []
  distinct : messages.flatten.Nodup
  complete : ∀ v, v ∈ messages.flatten ↔ v ∈ known ∨ ∃ d ∈ log, d.late = false ∧
    ∃ a, Call.parse GetValue.Answer d.reply = .ok a ∧ v ∈ a.values

lemma Passes.valueStream (hknown : known.Nodup)
    (h : Passes (.new (.fetch known) (.new key self termination k concurrency)) seeds log s) :
    ∃ messages, (if known = [] then [] else [.values known]) ++ s.lookup.reports =
        messages.map Report.values ∧
      ValueStream known log s.lookup.state.finished messages := by
  obtain ⟨⟨batches, hfetches⟩, hgathers⟩ := h.gathers
  have hfresh : freshValues [] known = known := freshValues_of_disjoint hknown (by simp)
  have hdistinct := hfetches.distinct
  rw [Gathers, hfetches.verb, Verb.seen] at hgathers
  rw [hfresh] at hdistinct hgathers
  generalize hended : s.lookup.state.finished = ended
  have hflatten : ((if known = [] then [] else [known]) ++ batches ++
      if ended then [[]] else []).flatten = known ++ batches.flatten := by
    by_cases hnone : known = [] <;> cases ended <;> simp [hnone]
  refine ⟨_, ?_, ⟨batches, hfetches.nonempty, rfl⟩, ?_, fun v => ?_⟩
  · rw [hfetches.reports, hended]
    by_cases hnone : known = [] <;> cases ended <;> simp [hnone]
  · rw [hflatten]
    exact hdistinct
  · rw [hflatten, ← mem_gathered_iff]
    exact hgathers v

/-- A fetch without a bound asks for all values of a node that announced some. -/
lemma Tours.request_unbounded {seen : List Bytes} {fs : List Flight}
    (h : Tours (.getValue seen) self seeds log l fs) (hunbounded : l.state.termination.budget = none)
    {a : Ask} (ha : a ∈ l.asked) :
    a.contact ∈ firsts self seeds ∧ a.contact.announced ≠ 0 ∧
      a.request = .getValue l.state.target 0 := by
  obtain ⟨hfirst, -, w, hw, hrequest⟩ := h.asked a ha
  cases hw with
  | getValue seen seen' =>
    simp only [Verb.request, hunbounded] at hrequest
    split_ifs at hrequest with hannounced
    obtain ⟨hrequest, -⟩ := Prod.mk.inj (Option.some.inj hrequest)
    exact ⟨hfirst, hannounced, hrequest.symm⟩

/-- What a fetch without a bound was answered until its end depends on what each node that announced
values answers, and on nothing else. -/
lemma Passes.answered_of_unbounded (hunbounded : termination.budget = none)
    (h : Passes (.new (.fetch known) (.new key self termination k concurrency)) seeds log s)
    (hfinished : s.lookup.state.finished = true) {answers : Contact → List Bytes}
    (hanswers : ∀ d ∈ log, ∀ v, v ∈ answers d.flight.contact ↔
      ∃ a, Call.parse GetValue.Answer d.reply = .ok a ∧ v ∈ a.values) :
    (∃ d ∈ log, d.late = false ∧ ∃ a, Call.parse GetValue.Answer d.reply = .ok a ∧ v ∈ a.values) ↔
      ∃ c ∈ firsts self seeds, c.announced ≠ 0 ∧ v ∈ answers c := by
  obtain ⟨-, halike⟩ := h.running
  have htours := h.tours rfl
  have hcompletes := h.completes rfl hunbounded
  obtain ⟨hnil, hpassed⟩ := hcompletes.ended hfinished
  constructor
  · rintro ⟨d, hd, -, a, ha, hv⟩
    obtain ⟨ask, hask, hmakes⟩ := htours.requested d.flight (mem_made_of_mem hd _)
    obtain ⟨hfirst, hannounced, -⟩ :=
      htours.request_unbounded (halike.termination ▸ hunbounded) hask
    rw [← hmakes.contact] at hfirst hannounced
    exact ⟨d.flight.contact, hfirst, hannounced, (hanswers d hd v).2 ⟨a, ha, hv⟩⟩
  · rintro ⟨c, hc, hannounced, hv⟩
    rw [hnil] at htours
    have hasks : (Verb.fetch known).asks c = true := by simpa [Verb.fetch, Verb.asks] using hannounced
    obtain ⟨d, hd, rfl⟩ := htours.landed hc (hpassed c hc) hasks
    obtain ⟨a, ha, hv⟩ := (hanswers d hd v).1 hv
    exact ⟨d, hd, hcompletes.prompt d hd, a, ha, hv⟩

end Kademlia.Lookup
