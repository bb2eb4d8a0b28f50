import Kademlia.Lookup.Goal
import Kademlia.Proofs.Lookup.FindNode
import Kademlia.Proofs.Lookup.Tour

/-!
# Storing at enough nodes

A lookup that stores a value wants as many acknowledgements as its redundancy. It never has more of
them and of requests under way together, so it overshoots never. It ends with exactly so many, or
after every candidate with a token was asked and has landed.
-/

namespace Kademlia.Lookup

open Wire Exchange

/-- Does a landing bring an acknowledgement? -/
def Landing.acknowledges (d : Landing) : Bool :=
  (Call.parse StoreValue.Answer d.reply).isOk

/-- The contacts that acknowledged, the earliest first. -/
def acknowledged (log : List Landing) : List Contact :=
  (log.filter (·.acknowledges)).map (·.flight.contact)

section Acknowledged

variable {log : List Landing} {d : Landing} {c : Contact}

lemma acknowledged_snoc (log : List Landing) (d : Landing) :
    acknowledged (log ++ [d]) =
      acknowledged log ++ if d.acknowledges then [d.flight.contact] else [] := by
  cases h : d.acknowledges <;> simp [acknowledged, h]

lemma mem_acknowledged_iff :
    c ∈ acknowledged log ↔ ∃ d ∈ log, d.flight.contact = c ∧
      ∃ a, Call.parse StoreValue.Answer d.reply = .ok a := by
  have hok (reply : Reply) : (Call.parse StoreValue.Answer reply).isOk = true ↔
      ∃ a, Call.parse StoreValue.Answer reply = .ok a := by
    cases Call.parse StoreValue.Answer reply <;> simp [Except.isOk, Except.toBool]
  simp only [acknowledged, List.mem_map, List.mem_filter, Landing.acknowledges, hok]
  constructor
  · rintro ⟨d, ⟨hd, ha⟩, hc⟩
    exact ⟨d, hd, hc, ha⟩
  · rintro ⟨d, hd, hc, ha⟩
    exact ⟨d, ⟨hd, ha⟩, hc⟩

lemma nodup_acknowledged (h : (log.map (·.flight.contact.id)).Nodup) :
    ((acknowledged log).map (·.id)).Nodup := by
  rw [acknowledged, List.map_map]
  exact h.sublist (List.filter_sublist.map _)

end Acknowledged

/-- The accounts of a lookup that stores a value at `r` nodes. -/
structure Stores (value : Bytes) (r : Nat) (candidates : List Contact)
    (log : List Landing) (l : Lookup) (fs : List Flight) : Prop where
  verb : l.state.finished = false → l.verb = .storeValue value (acknowledged log)
  answered : l.state.finished = false → l.state.answered.length = (acknowledged log).length
  reports : l.reports = if l.state.finished then [.contacts (acknowledged log)] else []
  bounded : (acknowledged log).length + fs.length ≤ r
  prompt : ∀ d ∈ log, d.late = false
  ended : l.state.finished = true → fs = [] ∧ ((acknowledged log).length = r ∨
    ∀ c ∈ candidates, c.id ∈ l.state.queried)

variable {target self : Id} {value : Bytes} {r : Nat} {seeds candidates : List Contact}
  {log : List Landing} {start : State} {l : Lookup} {f : Flight} {fs others new : List Flight}

/-- Only contacts with a token are asked, and to store the value with it. -/
lemma Tours.request_storeValue (h : Tours (.storeValue value []) self seeds log l fs) {a : Ask}
    (ha : a ∈ l.asked) : ∃ t, a.contact.token = some t ∧
      a.request = .storeValue l.state.target value t ∧ a.expected = 1 := by
  obtain ⟨-, -, w, hw, hrequest⟩ := h.asked a ha
  cases hw with
  | storeValue value acks acks' =>
    simp only [Verb.request, Option.map_eq_some_iff, Prod.mk.injEq] at hrequest
    obtain ⟨t, ht, hrequest, hexpected⟩ := hrequest
    exact ⟨t, ht, hrequest.symm, hexpected.symm⟩

/-- Passing candidates stops as soon as the requests under way would bring enough. -/
lemma expected_walk_le (value : Bytes) (acks cs : List Contact) {s : State}
    (hbudget : s.termination.budget = some r) (h : acks.length + s.expected < r) :
    acks.length + (walk (.storeValue value acks) cs s).1.expected ≤ r := by
  induction cs generalizing s with
  | nil => exact h.le
  | cons c cs ih =>
    have hvisit := walks_visit (.storeValue value acks) s c
    have hone : (visit (.storeValue value acks) s c).1.expected ≤ s.expected + 1 := by
      rw [visit]
      split_ifs
      · exact Nat.le_succ _
      · cases hc : c.token <;> simp [Verb.request, hc]
    simp only [walk]
    split
    · dsimp only
      omega
    · next hbusy =>
      have htermination : (visit (.storeValue value acks) s c).1.termination.budget = some r := by
        rw [hvisit.alike.termination, hbudget]
      have hroom : acks.length + (visit (.storeValue value acks) s c).1.expected < r := by
        rw [State.isBusy, Bool.or_eq_true, not_or, Bool.not_eq_true] at hbusy
        exact Termination.lt_of_not_reachedBy htermination (by omega) (Bool.not_eq_true _ ▸ hbusy.2)
      exact ih htermination hroom

/-- The requests under way should bring one acknowledgement each. -/
lemma Tours.sum_expected (h : Tours (.storeValue value []) self seeds log l fs) :
    (fs.map (·.expected)).sum = fs.length := by
  have hone : ∀ n ∈ fs.map (·.expected), n = 1 := by
    intro n hn
    obtain ⟨f, hf, rfl⟩ := List.mem_map.1 hn
    obtain ⟨a, ha, hmakes⟩ := h.requested f (List.mem_append_right _ hf)
    obtain ⟨-, -, -, hexpected⟩ := h.request_storeValue ha
    rw [hmakes.expected, hexpected]
  rw [List.sum_eq_card_nsmul _ 1 hone, List.length_map, smul_eq_mul, Nat.mul_one]

namespace Stores

lemma congr (h : Stores value r candidates log l fs) {l' : Lookup} {fs' : List Flight}
    (hverb : l'.verb = l.verb) (hstate : l'.state = l.state) (hreports : l'.reports = l.reports)
    (hperm : fs.Perm fs') :
    Stores value r candidates log l' fs' := by
  refine ⟨?_, ?_, ?_, hperm.length_eq ▸ h.bounded, h.prompt, ?_⟩
  · rw [hstate, hverb]
    exact h.verb
  · rw [hstate]
    exact h.answered
  · rw [hstate, hreports]
    exact h.reports
  · rw [hstate]
    intro hended
    obtain ⟨rfl, hwhy⟩ := h.ended hended
    exact ⟨List.nil_perm.1 hperm, hwhy⟩

/-! ### Scheduling -/

/-- The end is reported with all the acknowledgements. -/
lemma finish (h : Stores value r candidates log l fs) (hl : l.state.finished = false)
    (hnil : fs = []) (hwhy : (acknowledged log).length = r ∨
      ∀ c ∈ candidates, c.id ∈ l.state.queried) :
    Stores value r candidates log l.finish fs := by
  have hended := finished_finish l
  have hverb := h.verb hl
  have hreports := h.reports
  obtain ⟨s, hstate⟩ := finish_eq l
  refine ⟨?_, ?_, ?_, h.bounded, h.prompt, fun _ => ⟨hnil, ?_⟩⟩
  · intro hopen
    exact absurd (hended.symm.trans hopen) (by simp)
  · intro hopen
    exact absurd (hended.symm.trans hopen) (by simp)
  · rw [hl, if_neg Bool.false_ne_true] at hreports
    rw [hended, if_pos rfl]
    simp [Lookup.finish, hverb, Verb.finish, hreports]
  · rw [hstate]
    exact hwhy

/-- Requests are made only as far as they are still needed. -/
lemma advance (h : Stores value r candidates log l fs)
    (htours : Tours (.storeValue value []) self seeds log l fs) (hready : Ready start l fs)
    (htermination : l.state.termination.budget = some r)
    (hbudget : l.state.budgetReached l.verb.resultCount = false)
    (hnew : List.Forall₂ Flight.Makes new l.advance.2) :
    Stores value r candidates log l.advance.1 (fs ++ new) := by
  have hopen := (finished_advance l).trans hready.going
  have hverb := h.verb hready.going
  have hwalks := walks_advance l
  obtain ⟨haccounted, -⟩ := hready.advance hnew
  have hwalk : (acknowledged log).length + l.advance.1.state.expected ≤ r := by
    have hexpected : l.state.expected = fs.length :=
      (hready.expected hready.going).trans htours.sum_expected
    have hfew : (acknowledged log).length + l.ordered.expected < r := by
      rw [State.budgetReached, hverb] at hbudget
      exact Termination.lt_of_not_reachedBy htermination (hexpected ▸ h.bounded) hbudget
    have hle := expected_walk_le value _ l.next (s := l.ordered) htermination hfew
    rwa [← hverb] at hle
  have hsum := (htours.advance rfl hnew).sum_expected
  refine ⟨fun _ => hverb, fun _ => ?_, ?_, ?_, h.prompt, ?_⟩
  · rw [hwalks.state]
    exact h.answered hready.going
  · rw [hopen, ← hready.going]
    exact h.reports
  · rw [← hsum, ← haccounted.expected hopen]
    exact hwalk
  · intro hended
    exact absurd (hopen.symm.trans hended) (by simp)

/-- With as many answers as acknowledgements the termination is met when there are enough. -/
lemma length_of_met (h : Stores value r candidates log l fs) (hl : l.state.finished = false)
    (hr : 1 ≤ r) (htermination : l.state.termination = .redundancy r r) (hmet : l.isMet = true) :
    (acknowledged log).length = r ∧ fs = [] := by
  have hbounded := h.bounded
  have hne : r ≠ 0 := Nat.one_le_iff_ne_zero.1 hr
  have hle : r ≤ (acknowledged log).length := by
    simpa [isMet, htermination, Termination.isMet, Termination.budget, hne, h.verb hl,
      Verb.resultCount, h.answered hl] using hmet
  exact ⟨by omega, List.length_eq_zero_iff.1 (by omega)⟩

lemma schedule (h : Stores value r (firsts self seeds) log l fs)
    (htours : Tours (.storeValue value []) self seeds log l fs) (hready : Ready start l fs)
    (hr : 1 ≤ r) (hstart : start.termination = .redundancy r r)
    (hnew : List.Forall₂ Flight.Makes new (schedule l).2) :
    Stores value r (firsts self seeds) log (schedule l).1 (fs ++ new) := by
  have hopen := (finished_advance l).trans hready.going
  have htermination := hready.alike.termination.trans hstart
  have hbudget : l.state.termination.budget = some r := by
    simp [htermination, Termination.budget, Nat.one_le_iff_ne_zero.1 hr]
  rcases hready.schedule_cases hnew with ⟨hmet, heq, hsame⟩ | ⟨-, -, heq, hsame⟩ |
    ⟨-, hfew, hnew, ⟨hidle, heq⟩ | ⟨-, heq⟩⟩
  all_goals rw [heq]
  · obtain ⟨hlength, hnil⟩ := h.length_of_met hready.going hr htermination hmet
    rw [hsame]
    exact h.finish hready.going hnil (.inl hlength)
  · rw [hsame]
    exact h
  · have hpassed := htours.passed_of_idle rfl hready hfew hnew hidle
    exact (h.advance htours hready hbudget hfew hnew).finish hopen hidle (.inr hpassed)
  · exact h.advance htours hready hbudget hfew hnew

/-! ### Taking in replies -/

lemma drop (h : Stores value r candidates log l (f :: others))
    (hl : l.state.finished = false) {reply : Reply} {e : CallError}
    (hparse : l.verb.parse reply = .error e) :
    Stores value r candidates (log ++ [⟨f, reply, false⟩]) (l.drop f) others := by
  have hverb := h.verb hl
  rw [hverb] at hparse
  have hnone : acknowledged (log ++ [⟨f, reply, false⟩]) = acknowledged log := by
    have hparse' : Call.parse StoreValue.Answer reply = .error e := hparse
    rw [acknowledged_snoc, Landing.acknowledges, hparse']
    exact List.append_nil _
  have hbounded := h.bounded
  rw [List.length_cons] at hbounded
  refine ⟨?_, ?_, ?_, ?_, ?_, ?_⟩
  · rw [hnone]
    exact h.verb
  · rw [hnone]
    exact h.answered
  · rw [hnone]
    exact h.reports
  · rw [hnone]
    omega
  · exact late_snoc h.prompt f reply
  · intro hended
    exact absurd (hl.symm.trans hended) (by simp)

/-- An acknowledgement takes the place of the request it answers. -/
lemma learn (h : Stores value r candidates log l (f :: others))
    (hl : l.state.finished = false) {reply : Reply} {answer : l.verb.Answer}
    (hparse : l.verb.parse reply = .ok answer) :
    Stores value r candidates (log ++ [⟨f, reply, false⟩]) (l.learn f answer) others := by
  have hopen := (finished_learn l f answer).trans hl
  have hverb := h.verb hl
  have hanswered := h.answered hl
  have hreports := h.reports
  have hbounded := h.bounded
  rw [List.length_cons] at hbounded
  obtain ⟨verb, state, flights, asked, reports⟩ := l
  obtain rfl := hverb
  have hmore : acknowledged (log ++ [⟨f, reply, false⟩]) = acknowledged log ++ [f.contact] := by
    have hparse' : Call.parse StoreValue.Answer reply = .ok answer := hparse
    rw [acknowledged_snoc, Landing.acknowledges, hparse']
    rfl
  refine ⟨?_, ?_, ?_, ?_, ?_, ?_⟩
  · rw [hmore]
    intro _
    rfl
  · rw [hmore]
    intro _
    simp [Lookup.learn, Verb.process, hanswered]
  · rw [hopen, if_neg Bool.false_ne_true]
    rw [hl, if_neg Bool.false_ne_true] at hreports
    simp [Lookup.learn, Verb.process, hreports]
  · rw [hmore, List.length_append, List.length_singleton]
    omega
  · exact late_snoc h.prompt f reply
  · intro hended
    exact absurd (hopen.symm.trans hended) (by simp)

end Stores

/-! ### Runs -/

variable {known : List Bytes} {k concurrency : Nat} {s : Sweep}

lemma stores_discoverAll (value : Bytes) (r : Nat) (target self : Id) (termination : Termination)
    (k concurrency : Nat) (seeds : List Contact) :
    Stores value r (firsts self seeds) []
      (Lookup.new (.storeValue value [])
        ((State.new target self termination k concurrency).discoverAll seeds)) [] := by
  have hopen : ((State.new target self termination k concurrency).discoverAll seeds).finished =
      false := State.finished_discoverAll _ seeds
  refine ⟨fun _ => rfl, fun _ => ?_, ?_, by simp [acknowledged], by simp, fun hended => ?_⟩
  · exact congrArg List.length (State.answered_discoverAll _ seeds)
  · rw [Lookup.new, hopen]
    rfl
  · exact absurd (hopen.symm.trans hended) (by simp)

lemma Passes.stores (hr : 1 ≤ r)
    (h : Passes (.new (.storeValue value []) (.new target self (.redundancy r r) k concurrency))
      seeds log s) :
    Tours (.storeValue value []) self seeds log s.lookup (s.kept ++ s.rest) ∧
      Stores value r (firsts self seeds) log s.lookup (s.kept ++ s.rest) := by
  refine (h.induct_scheduled
    (P := fun log l fs => Tours (.storeValue value []) self seeds log l fs ∧
      Stores value r (firsts self seeds) log l fs)
    (Q := fun log l fs => Tours (.storeValue value []) self seeds log l fs ∧
      Stores value r (firsts self seeds) log l fs)
    ?congr ?start ?schedule ?late ?drop ?learn).2.2
  case congr =>
    rintro log l flights fs fs' ⟨htours, hstores⟩ hperm
    exact ⟨(htours.perm hperm).congr (.refl _) (.refl _) rfl rfl rfl, hstores.congr rfl rfl rfl hperm⟩
  case start =>
    exact ⟨tours_discoverAll _ target self (.redundancy r r) k concurrency seeds,
      stores_discoverAll value r target self (.redundancy r r) k concurrency seeds⟩
  case schedule =>
    rintro log l fs new hready ⟨htours, hstores⟩ hnew
    exact ⟨htours.schedule rfl hready hnew, hstores.schedule htours hready hr rfl hnew⟩
  case late =>
    -- nothing is under way any more when such a lookup has ended
    rintro log l f others reply hl ⟨-, hstores⟩
    exact absurd (hstores.ended hl).1 (by simp)
  case drop =>
    rintro log l f others reply - hl ⟨htours, hstores⟩ ⟨e, hparse⟩
    exact ⟨htours.drop reply, hstores.drop hl hparse⟩
  case learn =>
    rintro log l f others reply answer - hl ⟨htours, hstores⟩ hparse -
    exact ⟨htours.learn rfl reply answer, hstores.learn hl hparse⟩

/-- A value that is to be stored at `r` nodes is never acknowledged and under way at more than `r`
together. Only contacts with a token are asked, and to store it with just that token. The lookup
delivers once, at its end, all those that acknowledged, and ends with exactly `r` of them unless
every candidate with a token was asked and has landed. -/
theorem storeValue_fills_redundancy (hr : 1 ≤ r)
    (h : Passes (.new ((Goal.storeValue target value).verb known)
      (.new target self ((Goal.storeValue target value).termination r) k concurrency)) seeds log s) :
    let candidates := firsts self seeds
    let flights := s.kept ++ s.rest
    (acknowledged log).length + flights.length ≤ r ∧
      (∀ f ∈ made log flights, ∃ t, f.contact.token = some t ∧
        ⟨f.contact, .storeValue target value t, 1⟩ ∈ s.lookup.asked) ∧
      (∀ a ∈ s.lookup.asked, a.contact ∈ candidates ∧ ∃ t, a.contact.token = some t ∧
        a.request = .storeValue target value t) ∧
      s.lookup.reports =
        (if s.lookup.state.finished then [.contacts (acknowledged log)] else []) ∧
      ((acknowledged log).map (·.id)).Nodup ∧
      (∀ c, c ∈ acknowledged log ↔ ∃ d ∈ log, d.flight.contact = c ∧
        ∃ a, Call.parse StoreValue.Answer d.reply = .ok a) ∧
      (∀ d ∈ log, d.late = false ∧ d.flight.contact ∈ candidates) ∧
      (s.lookup.state.finished = true → flights = [] ∧
        ((acknowledged log).length = r ∨
          ∀ c ∈ candidates, ∀ t, c.token = some t →
            ⟨c, .storeValue target value t, 1⟩ ∈ s.lookup.asked ∧
            ∃ d ∈ log, d.flight.contact = c)) := by
  intro candidates flights
  obtain ⟨-, halike⟩ := h.running
  obtain ⟨htours, hstores⟩ := Passes.stores hr h
  have hasked {a : Ask} (ha : a ∈ s.lookup.asked) : a.contact ∈ candidates ∧
      ∃ t, a.contact.token = some t ∧ a.request = .storeValue target value t ∧ a.expected = 1 := by
    have hrequest := htours.request_storeValue ha
    rw [halike.target] at hrequest
    exact ⟨(htours.asked a ha).1, hrequest⟩
  have hmade : ∀ f ∈ made log flights, f.contact ∈ candidates ∧ ∃ t, f.contact.token = some t ∧
      ⟨f.contact, .storeValue target value t, 1⟩ ∈ s.lookup.asked := by
    intro f hf
    obtain ⟨a, ha, hmakes⟩ := htours.requested f hf
    obtain ⟨hfirst, t, ht, hrequest, hexpected⟩ := hasked ha
    rw [hmakes.contact]
    refine ⟨hfirst, t, ht, ?_⟩
    rw [← hrequest, ← hexpected]
    exact ha
  refine ⟨hstores.bounded, fun f hf => (hmade f hf).2, fun a ha => ?_, hstores.reports,
    nodup_acknowledged htours.nodup_log, fun c => mem_acknowledged_iff, fun d hd => ?_, fun hf => ?_⟩
  · obtain ⟨hfirst, t, ht, hrequest, -⟩ := hasked ha
    exact ⟨hfirst, t, ht, hrequest⟩
  · exact ⟨hstores.prompt d hd, (hmade d.flight (mem_made_of_mem hd flights)).1⟩
  · obtain ⟨hnil, hwhy⟩ := hstores.ended hf
    refine ⟨hnil, hwhy.imp_right fun hqueried c hc t ht => ?_⟩
    rw [hnil] at htours
    obtain ⟨d, hd, heq⟩ := htours.landed hc (hqueried c hc) (by simp [Verb.asks, ht])
    obtain ⟨-, t', ht', hsent⟩ := hmade d.flight (mem_made_of_mem hd flights)
    rw [heq] at ht' hsent
    obtain rfl := Option.some.inj (ht.symm.trans ht')
    exact ⟨hsent, d, hd, heq⟩

/-! ### A run with three nodes -/

namespace Copies

/-- A contact named by one octet, with the token it gave. -/
def node (b : UInt8) (token : Option Bytes) : Contact :=
  { Pair.node b with token }

/-- Node 1 has no token. -/
def nodes : List Contact :=
  [node 1 none, node 2 (some [116]), node 3 (some [117])]

/-- Node 9 stores a value at one node. -/
def lookup : Lookup :=
  .new ((Goal.storeValue (node 0 none).id [118]).verb [])
    (.new (node 0 none).id (node 9 none).id
      ((Goal.storeValue (node 0 none).id [118]).termination 1) 8 3)

def site : Site :=
  ⟨fun _ => none, (node 9 none).id, 0⟩

/-- A multiplexer where some replies wait. -/
def holding (delivered : List Delivery) : Multiplexer :=
  { Multiplexer.new (node 9 none).address 10 1472 ⟨id, 0⟩ with delivered }

/-- Node 3 says that it stored the value. -/
def answer : Response :=
  ⟨(node 3 none).address, Bencode.Dict.ofEntries [(Key.id, .bytes (node 3 none).id.bytes)]⟩

def started : Sweep :=
  ⟨(lookup.launch site nodes (holding [])).1, holding [], [],
    (lookup.launch site nodes (holding [])).1.flights, []⟩

/-- The sweep once the request to node 2 failed. -/
def failed : Sweep :=
  ({ started with multiplexer := holding [⟨0, .error .stopped⟩] } : Sweep).step site
    ⟨node 2 (some [116]), 1, ⟨0, some (node 2 none).id⟩⟩ []

/-- The sweep once node 3 answered. -/
def ended : Sweep :=
  ({ failed with multiplexer := holding [⟨0, .ok answer⟩] } : Sweep).step site
    ⟨node 3 (some [117]), 1, ⟨0, some (node 3 none).id⟩⟩ []

end Copies

/-- The node with a token that did not fail is delivered, and no other one was asked. -/
theorem storeValue_fills_one : ∃ log,
    1 ≤ 1 ∧ Passes Copies.lookup Copies.nodes log Copies.ended ∧
      Copies.ended.lookup.state.finished = true ∧
      Copies.ended.lookup.reports = [.contacts [Copies.node 3 (some [117])]] ∧
      acknowledged log = [Copies.node 3 (some [117])] ∧
      (∀ a ∈ Copies.ended.lookup.asked, ∃ t, a.contact.token = some t) := by
  have hstarted : Passes Copies.lookup Copies.nodes [] Copies.started :=
    .launch Copies.site (Copies.holding []) (Copies.holding [])
  obtain ⟨_, hfailed⟩ : ∃ log, Passes Copies.lookup Copies.nodes log Copies.failed :=
    ⟨_, hstarted.look Copies.site (Copies.holding [⟨0, .error .stopped⟩]) (by cbv)⟩
  obtain ⟨log, hended⟩ : ∃ log, Passes Copies.lookup Copies.nodes log Copies.ended :=
    ⟨_, hfailed.look Copies.site (Copies.holding [⟨0, .ok Copies.answer⟩]) (by cbv)⟩
  have hfinished : Copies.ended.lookup.state.finished = true := by cbv
  have hreported : Copies.ended.lookup.reports = [.contacts [Copies.node 3 (some [117])]] := by cbv
  obtain ⟨-, -, hasked, hreports, -⟩ := storeValue_fills_redundancy le_rfl hended
  rw [hfinished, if_pos rfl] at hreports
  have hacknowledged := hreports.symm.trans hreported
  refine ⟨log, le_rfl, hended, hfinished, hreported, ?_, fun a ha => ?_⟩
  · simpa using hacknowledged
  · obtain ⟨-, t, ht, -⟩ := hasked a ha
    exact ⟨t, ht⟩

end Kademlia.Lookup
