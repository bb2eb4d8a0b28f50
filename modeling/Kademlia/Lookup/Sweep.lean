import Kademlia.Lookup.Schedule
/-!
# Collecting replies

A sweep goes through the requests under way and takes in every reply that is there. A request whose
reply was taken gives its place to the last one, and requests made on the way are appended, so one
that fails at once is taken in by the same sweep. A sweep ends: every step uses up an answer of a
node, or a candidate that was not asked, or a request under way.
-/

namespace Kademlia.Lookup

open Wire Exchange

/-- Where and when the requests of a lookup are made. -/
structure Site where
  transport : Transport
  /-- The own identifier. -/
  self : Id
  now : Nat

/-- Make the requests a lookup asks for. -/
def issue (site : Site) (asks : List Ask) (m : Multiplexer) : List Flight × Multiplexer :=
  match asks with
  | [] => ([], m)
  | a :: rest =>
    let (call, m) := m.call site.transport site.self a.contact.address (some a.contact.id) a.request site.now
    let (flights, m) := issue site rest m
    (⟨a.contact, a.expected, call⟩ :: flights, m)

/-- A lookup in the middle of a sweep. -/
structure Sweep where
  lookup : Lookup
  multiplexer : Multiplexer
  /-- The requests that were looked at and wait on. -/
  kept : List Flight
  /-- The requests to look at. -/
  rest : List Flight
  /-- How the requests fared whose reply was taken, the earliest first. -/
  verdicts : List Verdict

/-- What is left to look at after the first one is taken out and the last one takes its place. -/
def refill {α : Type} : List α → List α
  | [] => []
  | x :: xs => (x :: xs).getLast (by simp) :: (x :: xs).dropLast

@[simp] theorem length_refill {α : Type} (xs : List α) : (refill xs).length = xs.length := by
  cases xs <;> simp [refill]

/-- How many answers of nodes wait to be taken. -/
def openAnswers (m : Multiplexer) : Nat :=
  m.delivered.countP fun d => d.reply.isOk

/-- How many candidates were not passed yet. -/
def openCandidates (s : State) : Nat :=
  s.candidates.found.countP fun c => c.id ∉ s.queried

/-- Look at the first request of a sweep. -/
def Sweep.step (site : Site) (s : Sweep) (f : Flight) (fs : List Flight) : Sweep :=
  match f.call.poll s.multiplexer with
  | (none, m) => { s with multiplexer := m, kept := s.kept ++ [f], rest := fs }
  | (some reply, m) =>
    let (lookup, asks, verdict) := s.lookup.settle f (s.lookup.verb.parse reply)
    let (flights, m) := issue site asks m
    { s with lookup, multiplexer := m, rest := refill fs ++ flights, verdicts := s.verdicts ++ [verdict] }

/-! ### Every step uses something up -/

theorem found_sort (c : Candidates) : c.sort.found = c.found := by
  unfold Candidates.sort
  split <;> rfl

theorem found_closest (c : Candidates) (n : Option Nat) : (c.closest n).2.found = c.found :=
  found_sort c

theorem mem_of_mem_closest {c : Candidates} {n : Option Nat} {x : Contact} (h : x ∈ (c.closest n).1) :
    x ∈ c.found := by
  simp only [Candidates.closest, List.mem_filterMap] at h
  obtain ⟨i, _, hi⟩ := h
  rw [found_sort] at hi
  exact List.mem_of_getElem? hi

theorem openCandidates_congr {s t : State} (found : s.candidates.found = t.candidates.found)
    (queried : s.queried = t.queried) : openCandidates s = openCandidates t := by
  simp [openCandidates, found, queried]

theorem openCandidates_finish (l : Lookup) : openCandidates l.finish.state = openCandidates l.state := by
  unfold finish Verb.finish
  cases l.verb <;> exact openCandidates_congr (by simp [found_closest]) rfl

theorem openCandidates_mono {s t : State} (found : t.candidates.found = s.candidates.found)
    (queried : ∀ id ∈ s.queried, id ∈ t.queried) : openCandidates t ≤ openCandidates s := by
  simp only [openCandidates, found]
  apply List.countP_mono_left
  intro c _ h
  simp only [decide_eq_true_eq] at h ⊢
  exact fun hc => h (queried _ hc)

theorem countP_lt {α : Type} {p q : α → Bool} {xs : List α} (le : ∀ x ∈ xs, p x → q x) {x : α}
    (hx : x ∈ xs) (hp : p x = false) (hq : q x = true) : xs.countP p < xs.countP q := by
  induction xs with
  | nil => simp at hx
  | cons y ys ih =>
    have mono : ys.countP p ≤ ys.countP q :=
      List.countP_mono_left fun z hz => le z (List.mem_cons_of_mem _ hz)
    rcases List.mem_cons.1 hx with rfl | hx
    · simp only [List.countP_cons, hp, hq]
      simp
      omega
    · have := ih (fun z hz => le z (List.mem_cons_of_mem _ hz)) hx
      have head := le y (List.mem_cons_self ..)
      simp only [List.countP_cons]
      by_cases hy : p y = true
      · simp [hy, head hy, this]
      · simp only [hy]
        simp
        omega

theorem openCandidates_lt {s t : State} (found : t.candidates.found = s.candidates.found)
    (queried : ∀ id ∈ s.queried, id ∈ t.queried) {c : Contact} (hc : c ∈ s.candidates.found)
    (before : c.id ∉ s.queried) (after : c.id ∈ t.queried) : openCandidates t < openCandidates s := by
  simp only [openCandidates, found]
  refine countP_lt (fun x _ h => ?_) hc (by simpa using after) (by simpa using before)
  simp only [decide_eq_true_eq] at h ⊢
  exact fun hx => h (queried _ hx)

/-- What passing candidates does to the state: none is found, none is forgotten to have been passed,
and whoever is asked is passed for the first time. -/
theorem visit_facts (v : Verb) (s : State) (c : Contact) :
    (visit v s c).1.candidates = s.candidates ∧ (∀ id ∈ s.queried, id ∈ (visit v s c).1.queried) ∧
      ∀ a ∈ (visit v s c).2, a.contact = c ∧ c.id ∉ s.queried ∧ c.id ∈ (visit v s c).1.queried := by
  unfold visit
  split
  · simp
  · next h =>
    simp only [not_or] at h
    dsimp only
    split <;> simp_all

theorem walk_facts (v : Verb) (cs : List Contact) (s : State) :
    (walk v cs s).1.candidates = s.candidates ∧ (∀ id ∈ s.queried, id ∈ (walk v cs s).1.queried) ∧
      ∀ a ∈ (walk v cs s).2, a.contact ∈ cs ∧ a.contact.id ∉ s.queried ∧
        a.contact.id ∈ (walk v cs s).1.queried := by
  induction cs generalizing s with
  | nil => simp [walk]
  | cons c cs ih =>
    obtain ⟨candidates, queried, asked⟩ := visit_facts v s c
    obtain ⟨candidates', queried', asked'⟩ := ih (visit v s c).1
    simp only [walk]
    split
    · refine ⟨candidates, queried, fun a ha => ?_⟩
      obtain ⟨rfl, before, after⟩ := asked a ha
      exact ⟨by simp, before, after⟩
    · refine ⟨candidates'.trans candidates, fun id h => queried' _ (queried _ h), fun a ha => ?_⟩
      rcases List.mem_append.1 ha with ha | ha
      · obtain ⟨rfl, before, after⟩ := asked a ha
        exact ⟨by simp, before, queried' _ after⟩
      · obtain ⟨mem, before, after⟩ := asked' a ha
        exact ⟨List.mem_cons_of_mem _ mem, fun h => before (queried _ h), after⟩

theorem openCandidates_advance (l : Lookup) :
    openCandidates l.advance.1.state ≤ openCandidates l.state ∧
      (l.advance.2 ≠ [] → openCandidates l.advance.1.state < openCandidates l.state) := by
  unfold advance
  dsimp only
  generalize (if l.verb.isFinding then some l.state.k else none) = n
  generalize hr : l.state.candidates.closest n = r
  obtain ⟨same, queried, asked⟩ := walk_facts l.verb r.1 { l.state with candidates := r.2 }
  have found : (walk l.verb r.1 { l.state with candidates := r.2 }).1.candidates.found =
      l.state.candidates.found := by
    rw [same]
    exact hr ▸ found_closest l.state.candidates n
  refine ⟨openCandidates_mono found queried, fun h => ?_⟩
  obtain ⟨a, ha⟩ := List.exists_mem_of_ne_nil _ h
  obtain ⟨mem, before, after⟩ := asked a ha
  exact openCandidates_lt found queried (mem_of_mem_closest (hr ▸ mem)) before after

theorem openCandidates_schedule (l : Lookup) :
    openCandidates (schedule l).1.state ≤ openCandidates l.state ∧
      ((schedule l).2 ≠ [] → openCandidates (schedule l).1.state < openCandidates l.state) := by
  have finishing : ∀ (l : Lookup) (p : Prop) [Decidable p],
      openCandidates (if p then l.finish else l).state = openCandidates l.state := by
    intro l p _
    split
    · exact openCandidates_finish l
    · rfl
  unfold schedule
  dsimp only
  rw [← finishing l ((!l.state.finished && l.isMet) = true)]
  generalize (if (!l.state.finished && l.isMet) = true then l.finish else l) = l'
  by_cases h : (l'.state.finished || l'.state.budgetReached l'.verb.resultCount) = true
  · simp only [h, ↓reduceIte]
    simp
  · rw [if_neg h, finishing]
    exact openCandidates_advance l'

theorem openCandidates_settle_error (l : Lookup) (f : Flight) (e : CallError) :
    openCandidates (l.settle f (.error e)).1.state ≤ openCandidates l.state ∧
      ((l.settle f (.error e)).2.1 ≠ [] →
        openCandidates (l.settle f (.error e)).1.state < openCandidates l.state) := by
  unfold settle
  dsimp only
  split
  · simp
  · exact openCandidates_schedule _

theorem openAnswers_reject (m : Multiplexer) (e : CallError) : openAnswers (m.reject e).2 = openAnswers m := by
  simp [openAnswers, Multiplexer.reject, Multiplexer.takeTicket, Multiplexer.record, Except.isOk, Except.toBool]

/-- A request gives its ticket no answer of a node. -/
theorem countP_isOk_request (s : Session) (t : Transport) (e : Entropy) (ticket : Ticket) (method : String)
    (d : Bencode.Dict) (now : Nat) :
    ((s.request t e ticket method d now).2.1.delivered.countP fun d => d.reply.isOk) = 0 := by
  unfold Session.request
  split
  · rfl
  · dsimp only
    split <;> rfl

theorem openAnswers_request (m : Multiplexer) (t : Transport) (a : Address) (method : String)
    (d : Bencode.Dict) (now : Nat) : openAnswers (m.request t a method d now).2 = openAnswers m := by
  unfold Multiplexer.request
  split
  · exact openAnswers_reject m _
  · simp only [openAnswers, Multiplexer.record, Multiplexer.setSession, List.countP_append,
      countP_isOk_request, Nat.add_zero]
    rfl

theorem openAnswers_call (m : Multiplexer) (t : Transport) (self : Id) (a : Address) (expected : Option Id)
    (r : Request) (now : Nat) : openAnswers (m.call t self a expected r now).2 = openAnswers m := by
  unfold Multiplexer.call
  cases r.arguments self with
  | ok d => exact openAnswers_request m t a _ d now
  | error e => exact openAnswers_reject m _

theorem openAnswers_issue (site : Site) (asks : List Ask) (m : Multiplexer) :
    openAnswers (issue site asks m).2 = openAnswers m := by
  induction asks generalizing m with
  | nil => rfl
  | cons a asks ih => exact (ih _).trans (openAnswers_call m _ _ _ (some a.contact.id) _ _)

theorem countP_eraseP {α : Type} {p q : α → Bool} {xs : List α} {x : α} (h : xs.find? q = some x) :
    (xs.eraseP q).countP p + (if p x then 1 else 0) = xs.countP p := by
  induction xs with
  | nil => simp at h
  | cons y ys ih =>
    simp only [List.find?_cons] at h
    split at h
    · next hq =>
      obtain rfl := Option.some.inj h
      simp [hq, List.countP_cons]
    · next hq =>
      have := ih h
      simp only [List.eraseP_cons, hq, List.countP_cons]
      simp only [cond_false, List.countP_cons]
      omega

/-- Looking for a reply never adds an answer, and takes one out unless the reply is an error. -/
theorem poll_facts (c : Call) (m : Multiplexer) :
    openAnswers (c.poll m).2 ≤ openAnswers m ∧
      ∀ reply, (c.poll m).1 = some reply →
        openAnswers (c.poll m).2 < openAnswers m ∨ ∃ e, reply = .error e := by
  unfold Call.poll Multiplexer.collect
  cases h : m.delivered.find? fun d => d.ticket == c.ticket with
  | none =>
    dsimp only
    split
    · next heq => split at heq <;> simp at heq
    · next heq =>
      split at heq
      · simp only [Prod.mk.injEq, true_and] at heq
        subst heq
        simp
      · simp at heq
    · next heq =>
      split at heq
      · simp at heq
      · simp only [Prod.mk.injEq, true_and] at heq
        subst heq
        simp
  | some d =>
    have := countP_eraseP (p := fun d => d.reply.isOk) h
    simp only [openAnswers]
    refine ⟨by omega, fun reply hr => ?_⟩
    simp only [Option.some.injEq] at hr
    cases hd : d.reply with
    | ok r =>
      left
      simp only [hd, Except.isOk, Except.toBool, ↓reduceIte] at this
      simp only [Except.isOk, Except.toBool] at this ⊢
      omega
    | error e =>
      right
      exact ⟨e, by rw [← hr, hd]; rfl⟩

theorem parse_error (v : Verb) (e : CallError) : v.parse (.error e) = .error e := by
  cases v <;> rfl

/-- What is left to use up after a step, compared with before. -/
theorem Sweep.step_decreases (site : Site) (s : Sweep) (f : Flight) (fs : List Flight)
    (h : s.rest = f :: fs) :
    Prod.Lex (· < ·) (Prod.Lex (· < ·) (· < ·))
      (openAnswers (s.step site f fs).multiplexer, openCandidates (s.step site f fs).lookup.state,
        (s.step site f fs).rest.length)
      (openAnswers s.multiplexer, openCandidates s.lookup.state, s.rest.length) := by
  have facts := poll_facts f.call s.multiplexer
  unfold Sweep.step
  generalize f.call.poll s.multiplexer = polled at facts
  obtain ⟨answer, m⟩ := polled
  obtain ⟨le, less⟩ := facts
  dsimp only at le less
  cases answer with
  | none =>
    dsimp only
    rcases Nat.lt_or_eq_of_le le with lt | eq
    · exact .left _ _ lt
    · rw [eq]
      refine .right _ (.right _ ?_)
      simp [h]
  | some reply =>
    dsimp only
    rw [openAnswers_issue]
    rcases less reply rfl with lt | ⟨e, rfl⟩
    · exact .left _ _ lt
    · rcases Nat.lt_or_eq_of_le le with lt | eq
      · exact .left _ _ lt
      · rw [eq, parse_error]
        refine .right _ ?_
        obtain ⟨mono, strict⟩ := openCandidates_settle_error s.lookup f e
        by_cases hasks : (s.lookup.settle f (.error e)).2.1 = []
        · rcases Nat.lt_or_eq_of_le mono with lt | eq
          · exact .left _ _ lt
          · rw [eq, hasks]
            refine .right _ ?_
            simp [h, issue]
        · exact .left _ _ (strict hasks)

/-- Look at all requests of a sweep. -/
def Sweep.run (site : Site) (s : Sweep) : Sweep :=
  match _h : s.rest with
  | [] => s
  | f :: fs => Sweep.run site (s.step site f fs)
termination_by (openAnswers s.multiplexer, openCandidates s.lookup.state, s.rest.length)
decreasing_by exact Sweep.step_decreases site s f fs _h

/-- Take in every reply that is there. -/
def tick (l : Lookup) (site : Site) (m : Multiplexer) : Lookup × Multiplexer × List Verdict :=
  let s := Sweep.run site ⟨l, m, [], l.flights, []⟩
  ({ s.lookup with flights := s.kept }, s.multiplexer, s.verdicts)

/-- Start with some candidates. -/
def launch (l : Lookup) (site : Site) (seeds : List Contact) (m : Multiplexer) : Lookup × Multiplexer :=
  let (l, asks) := l.begin seeds
  let (flights, m) := issue site asks m
  ({ l with flights }, m)

end Kademlia.Lookup
