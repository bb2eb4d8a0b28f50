import Kademlia.Client.Basic
import Kademlia.Proofs.Lookup.Accounting

/-!
# What a fetch reports

A lookup that fetches values reports them in batches, no value twice and none that was known, and an
empty batch at its end. It ends once it has as many values as it was asked for, counting those that
were known, but it cuts no batch short and leaves out none that was known. So only the last batch
can bring more than was asked for.
-/

namespace Kademlia.Lookup

open Wire Exchange

lemma mem_freshValues {seen vs : List Bytes} {v : Bytes} :
    v ∈ freshValues seen vs ↔ v ∈ vs ∧ v ∉ seen := by
  induction vs generalizing seen with
  | nil => simp [freshValues]
  | cons w vs ih =>
    unfold freshValues
    split_ifs with hw
    · rw [ih, List.mem_cons]
      constructor
      · exact fun ⟨hv, hseen⟩ => ⟨.inr hv, hseen⟩
      · rintro ⟨rfl | hv, hseen⟩
        · exact absurd hw hseen
        · exact ⟨hv, hseen⟩
    · rw [List.mem_cons, ih, List.mem_cons, List.mem_cons, not_or]
      constructor
      · rintro (rfl | ⟨hv, -, hseen⟩)
        · exact ⟨.inl rfl, hw⟩
        · exact ⟨.inr hv, hseen⟩
      · rintro ⟨rfl | hv, hseen⟩
        · exact .inl rfl
        · exact (eq_or_ne v w).imp_right fun hne => ⟨hv, hne, hseen⟩

lemma nodup_freshValues (seen vs : List Bytes) : (freshValues seen vs).Nodup := by
  induction vs generalizing seen with
  | nil => exact List.nodup_nil
  | cons v vs ih =>
    unfold freshValues
    split_ifs with hv
    · exact ih seen
    · refine List.nodup_cons.2 ⟨fun hmem => ?_, ih _⟩
      exact (mem_freshValues.1 hmem).2 List.mem_cons_self

/-- What a fetch has reported so far: batches of new values, each sent while there were fewer values
than asked for. -/
structure Fetches (known : List Bytes) (count : Nat) (batches : List (List Bytes)) (l : Lookup) :
    Prop where
  verb : l.verb = .getValue (freshValues [] known ++ batches.flatten)
  reports : l.reports = batches.map .values ++ if l.state.finished then [.values []] else []
  nonempty : ∀ b ∈ batches, b ≠ []
  distinct : (freshValues [] known ++ batches.flatten).Nodup
  bounded : 0 < count → ∀ before b after, batches = before ++ b :: after →
    (freshValues [] known).length + before.flatten.length < count

variable {known : List Bytes} {count : Nat} {batches : List (List Bytes)} {l : Lookup}

/-- A lookup that ends after some results and goes on has fewer. -/
lemma resultCount_lt (hcount : 0 < count) (htermination : l.state.termination = .ofCount count)
    (hmet : l.isMet = false) : l.verb.resultCount < count := by
  obtain ⟨n, rfl⟩ := Nat.exists_eq_succ_of_ne_zero hcount.ne'
  rw [isMet, htermination] at hmet
  simpa [Termination.ofCount, Termination.isMet, Termination.budget] using hmet

namespace Fetches

/-- The verb and what was reported, apart from the end, are all that matters. -/
lemma congr {l' : Lookup} (h : Fetches known count batches l) (hverb : l'.verb = l.verb)
    (hreports : l'.reports = batches.map .values ++ if l'.state.finished then [.values []] else []) :
    Fetches known count batches l' :=
  ⟨hverb.trans h.verb, hreports, h.nonempty, h.distinct, h.bounded⟩

lemma reports_of_open (h : Fetches known count batches l) (hl : l.state.finished = false) :
    l.reports = batches.map .values := by
  rw [h.reports, hl, if_neg Bool.false_ne_true, List.append_nil]

/-- The end is reported by an empty batch. -/
lemma finish (h : Fetches known count batches l) (hl : l.state.finished = false) :
    Fetches known count batches l.finish := by
  have hended := finished_finish l
  have hreports := h.reports_of_open hl
  obtain ⟨verb, state, flights, asked, reports⟩ := l
  obtain rfl := h.verb
  refine h.congr rfl ?_
  rw [hended, if_pos rfl, ← hreports]
  rfl

/-- Scheduling reports no values. It goes on only as long as the termination is not met. -/
lemma schedule (h : Fetches known count batches l) (hl : l.state.finished = false) :
    Fetches known count batches (schedule l).1 ∧
      ((schedule l).1.state.finished = false → (schedule l).1.isMet = false) := by
  have hadvance := (finished_advance l).trans hl
  have hwalked : Fetches known count batches l.advance.1 := by
    refine h.congr rfl ?_
    rw [hadvance, ← hl]
    exact h.reports
  rcases schedule_cases hl with ⟨-, heq⟩ | ⟨hmet, -, heq⟩ | ⟨hmet, -, ⟨-, heq⟩ | ⟨-, heq⟩⟩ <;>
    rw [heq]
  · exact ⟨h.finish hl, fun hf => absurd hf (by simp [finished_finish])⟩
  · exact ⟨h, fun _ => hmet⟩
  · exact ⟨hwalked.finish hadvance, fun hf => absurd hf (by simp [finished_finish])⟩
  · refine ⟨hwalked, fun _ => ?_⟩
    have hanswered : l.advance.1.state.answered = l.state.answered := by
      rw [(walks_advance l).state]
      rfl
    rw [isMet, (alike_advance l).termination, hanswered]
    exact hmet

/-- An answer that brings new values is reported as one batch more. -/
lemma learn (h : Fetches known count batches l) (hl : l.state.finished = false)
    (hroom : 0 < count → l.verb.resultCount < count) (f : Flight) (answer : l.verb.Answer) :
    ∃ batches, Fetches known count batches (l.learn f answer) := by
  have hopen := (finished_learn l f answer).trans hl
  have hreports := h.reports_of_open hl
  obtain ⟨verb, state, flights, asked, reports⟩ := l
  obtain rfl := h.verb
  generalize hfresh : freshValues (freshValues [] known ++ batches.flatten) answer.values = fresh
  by_cases hnone : fresh = []
  · refine ⟨batches, h.congr ?_ ?_⟩
    · simp [Lookup.learn, Verb.process, hfresh, hnone]
    · rw [hopen, ← hreports]
      simp [Lookup.learn, Verb.process, hfresh, hnone]
  · refine ⟨batches ++ [fresh], ⟨?_, ?_, ?_, ?_, ?_⟩⟩
    · simp [Lookup.learn, Verb.process, hfresh]
    · rw [hopen, List.map_append, ← hreports]
      simp [Lookup.learn, Verb.process, hfresh, hnone]
    · intro b hb
      rcases List.mem_append.1 hb with hb | hb
      · exact h.nonempty b hb
      · rwa [List.mem_singleton.1 hb]
    · rw [List.flatten_append, List.flatten_singleton, ← List.append_assoc, List.nodup_append]
      refine ⟨h.distinct, hfresh ▸ nodup_freshValues _ _, ?_⟩
      rintro v hv w hw rfl
      exact (mem_freshValues.1 (hfresh ▸ hw)).2 hv
    · intro hcount before b after hsplit
      rcases List.eq_nil_or_concat after with rfl | ⟨after, c, rfl⟩
      · obtain ⟨rfl, -⟩ := List.append_inj' hsplit rfl
        simpa [Verb.resultCount] using hroom hcount
      · rw [List.concat_eq_append, ← List.cons_append, ← List.append_assoc] at hsplit
        exact h.bounded hcount before b after (List.append_inj' hsplit rfl).1

end Fetches

/-! ### Runs -/

variable {key self : Id} {k concurrency : Nat} {seeds : List Contact} {log : List Landing} {s : Sweep}

lemma fetches_discoverAll (known : List Bytes) (count : Nat) (key self : Id)
    (termination : Termination) (k concurrency : Nat) (seeds : List Contact) :
    Fetches known count []
      (Lookup.new (.fetch known)
        ((State.new key self termination k concurrency).discoverAll seeds)) := by
  refine ⟨by simp [Lookup.new, Verb.fetch], ?_, by simp, ?_, by simp⟩
  · simp [Lookup.new, State.new]
  · simpa using nodup_freshValues [] known

lemma Passes.fetches
    (h : Passes (.new (.fetch known) (.new key self (.ofCount count) k concurrency)) seeds log s) :
    ∃ batches, Fetches known count batches s.lookup := by
  refine (h.induct_scheduled
    (P := fun _ l _ => (l.state.finished = false → l.isMet = false) ∧
      ∃ batches, Fetches known count batches l)
    (Q := fun _ l _ => ∃ batches, Fetches known count batches l)
    ?congr ?start ?schedule ?late ?drop ?learn).2.2.2
  case congr =>
    rintro log l flights fs fs' ⟨hmet, batches, hl⟩ -
    exact ⟨hmet, batches, hl.congr rfl hl.reports⟩
  case start =>
    exact ⟨[], fetches_discoverAll known count key self (.ofCount count) k concurrency seeds⟩
  case schedule =>
    rintro log l fs new hready ⟨batches, hl⟩ -
    obtain ⟨hfetches, hmet⟩ := hl.schedule hready.going
    exact ⟨hmet, batches, hfetches⟩
  case late =>
    rintro log l f others reply - hl
    exact hl
  case drop =>
    rintro log l f others reply - - ⟨-, batches, hl⟩ -
    exact ⟨batches, hl.congr rfl hl.reports⟩
  case learn =>
    rintro log l f others reply answer halike hopen ⟨hmet, batches, hl⟩ - -
    have hroom (hcount : 0 < count) : l.verb.resultCount < count :=
      resultCount_lt hcount halike.termination (hmet hopen)
    exact hl.learn hopen hroom f answer

/-- A fetch reports each value once and none that was known, and an empty batch at its end. A batch is
reported only while there are fewer values than asked for, known ones included. It is not cut short,
so the last one may bring more, and nothing bounds the values that were known. -/
theorem fetch_batches
    (h : Passes (.new (.fetch known) (.new key self (.ofCount count) k concurrency)) seeds log s) :
    ∃ batches : List (List Bytes),
      s.lookup.reports =
        batches.map .values ++ (if s.lookup.state.finished then [.values []] else []) ∧
      (∀ b ∈ batches, b ≠ []) ∧ (freshValues [] known ++ batches.flatten).Nodup ∧
      (0 < count → ∀ before b after, batches = before ++ b :: after →
        (freshValues [] known).length + before.flatten.length < count) := by
  obtain ⟨batches, hfetches⟩ := h.fetches
  exact ⟨batches, hfetches.reports, hfetches.nonempty, hfetches.distinct, hfetches.bounded⟩

/-! ### More values than asked for -/

namespace Overshoot

/-- A contact named by one octet, which announced some values. -/
def holder (b : UInt8) (announced : Nat) : Contact :=
  { id := ⟨b :: List.replicate 19 0, rfl⟩, address := ⟨.v4 127 0 0 b, 7⟩, announced }

/-- A fetch of two values by node 9, which holds one of them. -/
def fetch : Lookup :=
  new (.fetch [[1]]) (.new (holder 0 0).id (holder 9 0).id (.ofCount 2) 2 3)

def site : Site :=
  ⟨fun _ => none, (holder 9 0).id, 0⟩

/-- A multiplexer where some replies wait. -/
def holding (delivered : List Delivery) : Multiplexer :=
  { Multiplexer.new (holder 9 0).address 10 1472 ⟨id, 0⟩ with delivered }

/-- Node 1 gives three values, one of them known. -/
def answer : Response :=
  ⟨(holder 1 3).address, Bencode.Dict.ofEntries [(Key.id, .bytes (holder 1 3).id.bytes),
    (Key.values, .list [.bytes [1], .bytes [2], .bytes [3]])]⟩

def started : Sweep :=
  ⟨(fetch.launch site [holder 1 3] (holding [])).1, holding [], [],
    (fetch.launch site [holder 1 3] (holding [])).1.flights, []⟩

def ended : Sweep :=
  ({ started with multiplexer := holding [⟨0, .ok answer⟩] } : Sweep).step site
    ⟨holder 1 3, 3, ⟨0, some (holder 1 3).id⟩⟩ []

/-- A value service with some values of a key. -/
def service (key : Id) (values : List Bytes) : Service.ValueService :=
  let s := Service.ValueService.start .standard 0 ⟨id, 0⟩
  { s with store := values.foldl (fun store value => store.insert key value) s.store }

/-- A host that starts with two values of a key, which it is then asked for. -/
def host : Host Service.ValueService :=
  .new { id := (holder 9 0).id, address := (holder 9 0).address }
    (service (holder 0 0).id [[1], [2]]) ⟨id, 0⟩ fun _ => none

end Overshoot

/-- With one value known, two more in one batch are reported when two were asked for. -/
theorem fetch_batches_overshoot : ∃ log batches,
    Passes Overshoot.fetch [Overshoot.holder 1 3] log Overshoot.ended ∧
      Overshoot.ended.lookup.reports = batches.map .values ++ [.values []] ∧
      batches = [[[2], [3]]] ∧ (freshValues [] [[1]] ++ batches.flatten).Nodup := by
  have hstarted : Passes Overshoot.fetch [Overshoot.holder 1 3] [] Overshoot.started :=
    .launch Overshoot.site (Overshoot.holding []) (Overshoot.holding [])
  obtain ⟨log, hended⟩ : ∃ log, Passes Overshoot.fetch [Overshoot.holder 1 3] log Overshoot.ended :=
    ⟨_, hstarted.look Overshoot.site (Overshoot.holding [⟨0, .ok Overshoot.answer⟩]) (by cbv)⟩
  have hfinished : Overshoot.ended.lookup.state.finished = true := by cbv
  have hreported : Overshoot.ended.lookup.reports = [.values [[2], [3]], .values []] := by cbv
  obtain ⟨batches, hreports, -, hdistinct, -⟩ := fetch_batches hended
  rw [hfinished, if_pos rfl] at hreports
  refine ⟨log, batches, hended, hreports, ?_, hdistinct⟩
  have hmap : batches.map Report.values = [[[2], [3]]].map Report.values :=
    List.append_cancel_right (hreports.symm.trans hreported)
  exact List.map_injective_iff.2 (fun _ _ => Report.values.inj) hmap

/-- A host with two values of a key delivers both to who asks for one. -/
theorem find_exceeds_count :
    let fetched := Overshoot.host.find (fun _ => none)
      (.getValue (Overshoot.holder 0 0).id (.ofCount 1)) (some [])
    let values := Client.values ((fetched.2.take fetched.1).1.map .item)
    values = [[2], [1]] ∧ 1 < values.length := by
  decide +kernel

end Kademlia.Lookup
