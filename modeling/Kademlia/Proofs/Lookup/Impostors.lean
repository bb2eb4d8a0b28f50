import Kademlia.Host.Tick
import Kademlia.Proofs.Exchange.Quiet
import Kademlia.Proofs.Lookup.Tour
import Kademlia.Proofs.Lookup.Verdicts

/-!
# Impostors

The author of a response is read twice: on its way to the call, which wants to know whether the node
that was asked is speaking, and as a field of the answer, which the verbs go by. The two readers
agree on every response that gets through. So whoever answers in the name of another node, in no
name or in no readable form does what a lost request does, and what a lookup notes of a candidate is
what the candidate itself said.
-/

namespace Kademlia

open Bencode Wire Exchange

namespace Wire

/-- Payloads that name their author, by the identifier they were read with. -/
class Authored (α : Type) [Payload α] where
  author : α → Id
  require : ∀ {d : Dict} {a : α}, Payload.ofDict d = .ok a → Field.id.require d = .ok (author a)

/-- A payload of nothing but an identifier is read from that identifier. -/
lemma require_of_idOfDict {α : Type} {mk : Id → α} {d : Dict} {a : α}
    (h : mk <$> idOfDict d = .ok a) : ∃ id, Field.id.require d = .ok id ∧ mk id = a := by
  cases hid : idOfDict d with
  | error e =>
    rw [hid] at h
    cases h
  | ok id =>
    rw [hid] at h
    simp only [idOfDict, bind_eq_ok] at hid
    obtain ⟨_, -, hid⟩ := hid
    exact ⟨id, hid, Except.ok.inj h⟩

instance : Authored Ping.Answer where
  author a := a.id
  require h := by
    obtain ⟨id, hid, rfl⟩ := require_of_idOfDict h
    exact hid

instance : Authored StoreValue.Answer where
  author a := a.id
  require h := by
    obtain ⟨id, hid, rfl⟩ := require_of_idOfDict h
    exact hid

instance : Authored FindNode.Answer where
  author a := a.id
  require h := by
    simp only [Payload.ofDict, bind_eq_ok] at h
    obtain ⟨_, -, id, hid, nodes, -, token, -, h⟩ := h
    obtain rfl := Except.ok.inj h
    exact hid

instance : Authored FindValue.Answer where
  author a := a.id
  require h := by
    simp only [Payload.ofDict, bind_eq_ok] at h
    obtain ⟨_, -, id, hid, nodes, -, token, -, num, -, h⟩ := h
    obtain rfl := Except.ok.inj h
    exact hid

instance : Authored GetValue.Answer where
  author a := a.id
  require h := by
    simp only [Payload.ofDict, bind_eq_ok] at h
    obtain ⟨_, -, id, hid, values, -, h⟩ := h
    obtain rfl := Except.ok.inj h
    exact hid

end Wire

namespace Exchange

/-- An answer that comes out of a call has the author that the call expects, whichever of the two
places it is read from. -/
lemma Call.author_of_pollAs {α : Type} [Payload α] [Authored α] {c : Call} {m : Multiplexer}
    {id : Id} (hexpected : c.expected = some id) {a : α} (h : (c.pollAs α m).1 = some (.ok a)) :
    ∃ r, (m.collect c.ticket).1 = .ready (.ok r) ∧
      r.payload.get? Key.id = some (.bytes id.bytes) ∧ Authored.author a = id := by
  obtain ⟨reply, hreply, hparse⟩ := Option.map_eq_some_iff.1 h
  obtain ⟨r, rfl, hread⟩ := parse_eq_ok hparse
  obtain ⟨hcollect, author, hauthor, hwelcome⟩ := collect_of_poll hreply
  obtain rfl := hwelcome id hexpected
  exact ⟨r, hcollect, authorOf_eq_some_iff.1 hauthor,
    eq_of_require_id (Authored.require hread) hauthor⟩

end Exchange

namespace Lookup

/-- The author of an answer. -/
def Verb.author : (v : Verb) → v.Answer → Id
  | .findNode, (a : FindNode.Answer) => Authored.author a
  | .findValue, (a : FindValue.Answer) => Authored.author a
  | .getValue _, (a : GetValue.Answer) => Authored.author a
  | .storeValue .., (a : StoreValue.Answer) => Authored.author a

/-- Is a response no answer of a contact? It is under another identifier or under none, or it cannot
be read as what was asked for. -/
def Impostor (v : Verb) (c : Contact) (r : Response) : Prop :=
  authorOf r.payload ≠ some c.id ∨ ∃ e, v.parse (.ok r) = .error e

/-- Did a lookup learn nothing on its way to another? It has the candidates, with what is noted of
them, and those that answered, and it has gathered and reported the same, unless it ended and so
made its last report. -/
structure Unmoved (l l' : Lookup) : Prop where
  found : l'.state.candidates.found = l.state.candidates.found
  answered : l'.state.answered = l.state.answered
  results : ∃ rest : Lookup, rest.verb = l.verb ∧ rest.reports = l.reports ∧
    rest.state.candidates.found = l.state.candidates.found ∧ (l' = rest ∨ l' = rest.finish)

variable {l : Lookup} {f : Flight} {reply : Reply}

/-! ### What scheduling leaves alone -/

lemma found_finish (l : Lookup) :
    l.finish.state.candidates.found = l.state.candidates.found := by
  unfold finish Verb.finish
  cases l.verb <;> simp [found_closest]

lemma answered_finish (l : Lookup) : l.finish.state.answered = l.state.answered := by
  obtain ⟨candidates, h⟩ := finish_eq l
  rw [h]

lemma unmoved_refl (l : Lookup) : l.Unmoved l :=
  ⟨rfl, rfl, l, rfl, rfl, rfl, .inl rfl⟩

lemma unmoved_finish {l rest : Lookup} (hverb : rest.verb = l.verb)
    (hreports : rest.reports = l.reports)
    (hfound : rest.state.candidates.found = l.state.candidates.found)
    (hanswered : rest.state.answered = l.state.answered) : l.Unmoved rest.finish :=
  ⟨(found_finish rest).trans hfound, (answered_finish rest).trans hanswered,
    rest, hverb, hreports, hfound, .inr rfl⟩

/-- Scheduling teaches a lookup nothing. -/
lemma unmoved_schedule (l : Lookup) : l.Unmoved (schedule l).1 := by
  cases hl : l.state.finished with
  | true =>
    have heq : schedule l = (l, []) := by simp [schedule, hl]
    rw [heq]
    exact unmoved_refl l
  | false =>
    have hfound : l.advance.1.state.candidates.found = l.state.candidates.found := by
      rw [candidates_advance, found_sort]
    have hanswered : l.advance.1.state.answered = l.state.answered := by
      rw [(walks_advance l).state]
      rfl
    rcases schedule_cases hl with ⟨-, heq⟩ | ⟨-, -, heq⟩ | ⟨-, -, ⟨-, heq⟩ | ⟨-, heq⟩⟩
    all_goals rw [heq]
    · exact unmoved_finish rfl rfl rfl rfl
    · exact unmoved_refl l
    · exact unmoved_finish rfl rfl hfound hanswered
    · exact ⟨hfound, hanswered, l.advance.1, rfl, rfl, hfound, .inl rfl⟩

/-- A failed request teaches a lookup nothing. -/
lemma unmoved_settle_error (l : Lookup) (f : Flight) (e : CallError) :
    l.Unmoved (l.settle f (.error e)).1 := by
  cases hl : l.state.finished with
  | true =>
    have heq : (l.settle f (.error e)).1 = l := by simp [settle, hl]
    rw [heq]
    exact unmoved_refl l
  | false =>
    rw [settle_error hl]
    have hdrop := unmoved_schedule (l.drop f)
    exact ⟨hdrop.found, hdrop.answered, hdrop.results⟩

/-- It makes no difference what a request failed of. -/
lemma settle_error_congr (l : Lookup) (f : Flight) (e e' : CallError) :
    l.settle f (.error e) = l.settle f (.error e') :=
  rfl

/-! ### What answers teach -/

/-- An answer that can be read is that of its author. -/
lemma Verb.author_of_parse {v : Verb} {answer : v.Answer} {r : Response}
    (h : v.parse (.ok r) = .ok answer) {id : Id} (hauthor : authorOf r.payload = some id) :
    v.author answer = id := by
  cases v with
  | findNode =>
    obtain ⟨_, hr, hread⟩ := parse_eq_ok h
    obtain rfl := Except.ok.inj hr
    exact eq_of_require_id (Authored.require hread) hauthor
  | findValue =>
    obtain ⟨_, hr, hread⟩ := parse_eq_ok h
    obtain rfl := Except.ok.inj hr
    exact eq_of_require_id (Authored.require hread) hauthor
  | getValue seen =>
    obtain ⟨_, hr, hread⟩ := parse_eq_ok h
    obtain rfl := Except.ok.inj hr
    exact eq_of_require_id (Authored.require hread) hauthor
  | storeValue value acknowledged =>
    obtain ⟨_, hr, hread⟩ := parse_eq_ok h
    obtain rfl := Except.ok.inj hr
    exact eq_of_require_id (Authored.require hread) hauthor

/-- Discovering contacts adds some of them. -/
lemma State.exists_found_discoverAll (s : State) (cs : List Contact) :
    ∃ new, new ⊆ cs ∧ (s.discoverAll cs).candidates.found = s.candidates.found ++ new := by
  induction cs generalizing s with
  | nil => exact ⟨[], List.Subset.refl _, by simp [discoverAll]⟩
  | cons c cs ih =>
    obtain ⟨new, hnew, hfound⟩ := ih (s.discover c)
    have hone : ∃ first, first ⊆ [c] ∧
        (s.discover c).candidates.found = s.candidates.found ++ first := by
      unfold discover Candidates.insert
      split
      · exact ⟨[], by simp, by simp⟩
      · split
        · exact ⟨[], by simp, by simp⟩
        · exact ⟨[c], List.Subset.refl _, rfl⟩
    obtain ⟨first, hfirst, hone⟩ := hone
    refine ⟨first ++ new, ?_, ?_⟩
    · intro d hd
      rcases List.mem_append.1 hd with hd | hd
      · exact List.mem_cons.2 (.inl (List.mem_singleton.1 (hfirst hd)))
      · exact List.mem_cons_of_mem c (hnew hd)
    · show ((s.discover c).discoverAll cs).candidates.found = _
      rw [hfound, hone, List.append_assoc]

/-- Taking in an answer notes what it says of its author, and brings in contacts without any notes. -/
lemma found_learn (hauthor : ∀ r, reply = .ok r → authorOf r.payload = some f.contact.id)
    {answer : l.verb.Answer} (hparse : l.verb.parse reply = .ok answer) :
    ∃ new : List Contact, (∀ c ∈ new, c = c.bare) ∧
      (l.learn f answer).state.candidates.found =
        l.state.candidates.found.map
          (fun c => if c.id = f.contact.id then l.verb.tell answer c else c) ++ new := by
  cases hv : l.verb.isFinding with
  | true =>
    have hbare : ∀ c ∈ l.verb.listed answer, c = c.bare := by
      intro c hc
      have hheard : c ∈ heard l.verb [⟨f, reply, false⟩] := by
        simpa [heard, Landing.listed, Landing.answer?, hparse, Except.toOption] using hc
      exact eq_bare_of_mem_heard hheard
    obtain ⟨new, hnew, hfound⟩ :=
      (l.note f answer).exists_found_discoverAll (l.verb.listed answer)
    rw [found_note] at hfound
    rw [learn_of_finding hv hparse hauthor]
    exact ⟨new, fun c hc => hbare c (hnew hc), hfound⟩
  | false =>
    refine ⟨[], by simp, ?_⟩
    obtain ⟨verb, state, flights, asked, reports⟩ := l
    cases verb with
    | findNode => cases hv
    | findValue => cases hv
    | getValue seen => simp [learn, drop, Verb.process, Verb.tell]
    | storeValue value acknowledged => simp [learn, drop, Verb.process, Verb.tell]

/-- What a look at a request may change about the candidates: what is noted of the one that was
asked, by its own answer. -/
lemma settle_notes (l : Lookup) (f : Flight) (reply : Reply)
    (hauthor : ∀ r, reply = .ok r → authorOf r.payload = some f.contact.id) :
    (l.settle f (l.verb.parse reply)).1.state.candidates.found = l.state.candidates.found ∨
      ∃ answer new, l.verb.parse reply = .ok answer ∧ (∀ c ∈ new, c = Contact.bare c) ∧
        (l.settle f (l.verb.parse reply)).1.state.candidates.found =
          l.state.candidates.found.map
            (fun c => if c.id = f.contact.id then l.verb.tell answer c else c) ++ new := by
  cases hparse : l.verb.parse reply with
  | error e => exact .inl (unmoved_settle_error l f e).found
  | ok answer =>
    by_cases hnew : l.state.finished = true ∨ f.contact.id ∈ l.state.answered
    · exact .inl (by simp [settle, hnew])
    · obtain ⟨new, hbare, hfound⟩ := found_learn hauthor hparse
      refine .inr ⟨answer, new, rfl, hbare, ?_⟩
      rw [settle_ok hnew]
      exact (unmoved_schedule _).found.trans hfound

/-! ### In every run -/

/-- What is noted of a candidate in a run: what it came with as a seed, nothing if it was listed by
somebody, and then what it said in responses of its own. -/
inductive Noted (v : Verb) (seeds : List Contact) (log : List Landing) : Contact → Prop where
  | seed {c : Contact} (hc : c ∈ seeds) : Noted v seeds log c
  | listed {c : Contact} (hc : c = c.bare) : Noted v seeds log c
  | told {c : Contact} (hc : Noted v seeds log c) {d : Landing} (hd : d ∈ log)
      (hid : d.flight.contact.id = c.id) {r : Response} (hreply : d.reply = .ok r)
      (hauthor : r.payload.get? Key.id = some (.bytes c.id.bytes)) {answer : v.Answer}
      (hanswer : v.parse (.ok r) = .ok answer) : Noted v seeds log (v.tell answer c)

lemma Noted.mono {v : Verb} {seeds : List Contact} {log log' : List Landing} {c : Contact}
    (h : Noted v seeds log c) (hlog : log ⊆ log') : Noted v seeds log' c := by
  induction h with
  | seed hc => exact .seed hc
  | listed hc => exact .listed hc
  | told _ hd hid hreply hauthor hanswer ih => exact ih.told (hlog hd) hid hreply hauthor hanswer

/-- What is said in an answer does not depend on what was gathered before. -/
lemma Verb.Alike.exists_tell {v w : Verb} (h : v.Alike w) {reply : Reply} {answer : w.Answer}
    (hparse : w.parse reply = .ok answer) :
    ∃ same : v.Answer, v.parse reply = .ok same ∧ v.tell same = w.tell answer := by
  cases h with
  | findNode => exact ⟨answer, hparse, rfl⟩
  | findValue => exact ⟨answer, hparse, rfl⟩
  | getValue seen seen' => exact ⟨answer, hparse, rfl⟩
  | storeValue value acknowledged acknowledged' => exact ⟨answer, hparse, rfl⟩

lemma alike_schedule_verb (l : Lookup) : l.verb.Alike (schedule l).1.verb := by
  obtain ⟨rest, hverb, -, -, heq | heq⟩ := (unmoved_schedule l).results
  all_goals rw [heq]
  · rw [hverb]
    exact .refl _
  · rw [← hverb]
    exact Verb.alike_finish _ _

lemma alike_settle (l : Lookup) (f : Flight) (result : Except CallError l.verb.Answer) :
    l.verb.Alike (l.settle f result).1.verb := by
  cases result with
  | error e =>
    obtain ⟨rest, hverb, -, -, heq | heq⟩ := (unmoved_settle_error l f e).results
    all_goals rw [heq]
    · rw [hverb]
      exact .refl _
    · rw [← hverb]
      exact Verb.alike_finish _ _
  | ok answer =>
    by_cases hnew : l.state.finished = true ∨ f.contact.id ∈ l.state.answered
    · have heq : (l.settle f (.ok answer)).1 = l := by simp [settle, hnew]
      rw [heq]
      exact .refl _
    · rw [settle_ok hnew]
      refine Verb.Alike.trans ?_ (alike_schedule_verb (l.learn f answer))
      exact Verb.alike_process _ _ _ _

variable {verb : Verb} {target self : Id} {termination : Termination} {k concurrency : Nat}
  {seeds : List Contact} {log : List Landing} {s : Sweep}

/-- In every run the candidates carry what the seeds came with and what they said themselves. -/
lemma Passes.noted
    (h : Passes (.new verb (.new target self termination k concurrency)) seeds log s) :
    ∀ c ∈ s.lookup.state.candidates.found, Noted verb seeds log c := by
  have hrun := Passes.induct
    (P := fun log l _ => verb.Alike l.verb ∧
      ∀ c ∈ l.state.candidates.found, Noted verb seeds log c) ?congr ?start ?land h
  · exact hrun.1.2
  case congr =>
    intro log l flights fs fs' hl _
    exact hl
  case start =>
    intro new _
    have hbegin := alike_schedule_verb { Lookup.new verb
      (.new target self termination k concurrency) with
        state := (State.new target self termination k concurrency).discoverAll seeds }
    refine ⟨hbegin, fun c hc => ?_⟩
    rw [begin, (unmoved_schedule _).found] at hc
    obtain ⟨first, hfirst, hfound⟩ := State.exists_found_discoverAll
      (State.new target self termination k concurrency) seeds
    change c ∈ ((State.new target self termination k concurrency).discoverAll
      seeds).candidates.found at hc
    rw [hfound] at hc
    exact .seed (hfirst hc)
  case land =>
    intro log l f others new reply hl hauthor _
    obtain ⟨hverb, hnoted⟩ := hl
    refine ⟨hverb.trans (alike_settle l f _), fun c hc => ?_⟩
    have hmono : ∀ c ∈ l.state.candidates.found,
        Noted verb seeds (log ++ [⟨f, reply, l.state.finished⟩]) c :=
      fun c hc => (hnoted c hc).mono (List.subset_append_left _ _)
    rcases settle_notes l f reply hauthor with heq | ⟨answer, new, hparse, hbare, heq⟩
    · rw [heq] at hc
      exact hmono c hc
    · rw [heq] at hc
      rcases List.mem_append.1 hc with hc | hc
      · obtain ⟨before, hbefore, rfl⟩ := List.mem_map.1 hc
        split_ifs with hid
        · obtain ⟨same, hsame, htell⟩ := hverb.exists_tell hparse
          obtain ⟨r, rfl⟩ := exists_response hparse
          rw [← htell]
          have hid' := authorOf_eq_some_iff.1 (hauthor r rfl)
          rw [← hid] at hid'
          exact (hmono before hbefore).told
            (List.mem_append_right _ (List.mem_singleton_self _)) hid.symm rfl hid' hsame
        · exact hmono before hbefore
      · exact .listed (hbare c hc)

/-- In every run each request waits for the contact it is made to. -/
lemma Passes.expected {l : Lookup} (h : Passes l seeds log s) {f : Flight}
    (hf : f ∈ s.kept ++ s.rest) : f.call.expected = some f.contact.id := by
  have hrun := Passes.induct (P := fun _ _ _ => True)
    (fun _ _ _ _ _ _ _ => trivial) (fun _ _ => trivial) (fun _ _ _ _ _ _ _ _ _ => trivial) h
  exact hrun.2 f hf

/-- A response that is no answer of the contact that was asked comes out of the call as a failure. -/
lemma Impostor.fails {v : Verb} {r : Response} {m : Multiplexer} (h : Impostor v f.contact r)
    (hexpected : f.call.expected = some f.contact.id)
    (hcollect : (m.collect f.call.ticket).1 = .ready (.ok r)) :
    ∃ reply e, (f.call.poll m).1 = some reply ∧ v.parse reply = .error e := by
  refine ⟨(Except.ok r : Reply).bind (Call.verify f.call.expected), ?_⟩
  rw [Call.poll_of_collect hcollect]
  cases hverify : Call.verify f.call.expected r with
  | error e =>
    refine ⟨e, rfl, ?_⟩
    rw [show (Except.ok r : Reply).bind (Call.verify f.call.expected) = .error e from hverify,
      parse_error]
  | ok r' =>
    obtain ⟨rfl, author, hauthor, hwelcome⟩ := Call.verify_eq_ok hverify
    rcases h with hother | ⟨e, hunreadable⟩
    · rw [hwelcome _ hexpected] at hother
      exact absurd hauthor hother
    · refine ⟨e, rfl, ?_⟩
      rw [show (Except.ok r' : Reply).bind (Call.verify f.call.expected) = .ok r' from hverify,
        hunreadable]

/-- Impostors have no influence. Whatever type an answer is read as, what a call that expects a node
gives out comes from a response whose identifier is a byte string of twenty octets, that of the
node, and the answer has that author. In every run of every lookup, at every look at a request: what
is taken in as an answer was given to this request by the contact that was asked. A response under
another identifier, under none, or unreadable does what any failure does: the contact failed, which
counts against it in a routing table, and the lookup learned nothing. Of the candidates only the
one that was asked can have something noted, by its own answer. So in every run the candidates carry
what the seeds came with and what they said themselves. -/
theorem impostors_have_no_influence (verb : Verb) (target self : Id) (termination : Termination)
    (k concurrency : Nat) (seeds : List Contact) :
    (∀ (α : Type) [Payload α] [Authored α] (c : Call) (id : Id) (m : Multiplexer) (a : α),
      c.expected = some id → (c.pollAs α m).1 = some (.ok a) →
      ∃ r, (m.collect c.ticket).1 = .ready (.ok r) ∧
        r.payload.get? Key.id = some (.bytes id.bytes) ∧ id.bytes.length = 20 ∧
        Authored.author a = id) ∧
    ∀ log s, Passes (.new verb (.new target self termination k concurrency)) seeds log s →
      (∀ f fs, s.rest = f :: fs → ∀ site m,
        let s' := ({ s with multiplexer := m } : Sweep).step site f fs
        (∀ reply answer, (f.call.poll m).1 = some reply →
          s.lookup.verb.parse reply = .ok answer →
          s.lookup.verb.author answer = f.contact.id ∧
          ∃ r, reply = .ok r ∧ (m.collect f.call.ticket).1 = .ready (.ok r) ∧
            r.payload.get? Key.id = some (.bytes f.contact.id.bytes)) ∧
        (∀ r, (m.collect f.call.ticket).1 = .ready (.ok r) →
          Impostor s.lookup.verb f.contact r →
          (∀ e, s'.lookup = (s.lookup.settle f (.error e)).1) ∧ s.lookup.Unmoved s'.lookup ∧
          s'.verdicts = s.verdicts ++ [.failed f.contact] ∧
          ∀ table, s'.verdicts.foldl Host.settleVerdict table =
            (s.verdicts.foldl Host.settleVerdict table).fail f.contact) ∧
        ∀ c ∈ s.lookup.state.candidates.found, c ∈ s'.lookup.state.candidates.found ∨
          (c.id = f.contact.id ∧ ∃ r answer, (m.collect f.call.ticket).1 = .ready (.ok r) ∧
            r.payload.get? Key.id = some (.bytes c.id.bytes) ∧
            s.lookup.verb.parse (.ok r) = .ok answer ∧
            s.lookup.verb.tell answer c ∈ s'.lookup.state.candidates.found)) ∧
      ∀ c ∈ s.lookup.state.candidates.found, Noted verb seeds log c := by
  refine ⟨?_, fun log s hs => ⟨fun f fs hrest site m => ?_, hs.noted⟩⟩
  · intro α _ _ c id m a hexpected ha
    obtain ⟨r, hcollect, hid, hauthor⟩ := Call.author_of_pollAs hexpected ha
    exact ⟨r, hcollect, hid, id.length_bytes, hauthor⟩
  have hexpected : f.call.expected = some f.contact.id := hs.expected (by simp [hrest])
  have hstep : ∀ reply, (f.call.poll m).1 = some reply →
      (({ s with multiplexer := m } : Sweep).step site f fs).lookup =
          (s.lookup.settle f (s.lookup.verb.parse reply)).1 ∧
        (({ s with multiplexer := m } : Sweep).step site f fs).verdicts =
          s.verdicts ++ [(s.lookup.settle f (s.lookup.verb.parse reply)).2.2] := by
    intro reply hreply
    cases hpoll : f.call.poll m with
    | mk polled m' =>
      obtain rfl : polled = some reply := by rw [← hreply, hpoll]
      simp [Sweep.step, hpoll]
  refine ⟨?_, ?_, ?_⟩
  · intro reply answer hreply hparse
    obtain ⟨r, rfl⟩ := exists_response hparse
    obtain ⟨hcollect, -⟩ := Call.collect_of_poll hreply
    have hauthor := author_of_poll hexpected hreply
    exact ⟨Verb.author_of_parse hparse hauthor, r, rfl, hcollect,
      authorOf_eq_some_iff.1 hauthor⟩
  · intro r hcollect himpostor
    obtain ⟨reply, e, hreply, hparse⟩ := himpostor.fails hexpected hcollect
    obtain ⟨hlookup, hverdicts⟩ := hstep reply hreply
    rw [hparse] at hlookup hverdicts
    have hfailed : (s.lookup.settle f (.error e)).2.2 = .failed f.contact := by
      rcases verdict_settle s.lookup f (.error e) with ⟨_, hok, -⟩ | heq
      · cases hok
      · exact heq
    rw [hfailed] at hverdicts
    refine ⟨fun e' => ?_, ?_, hverdicts, fun table => ?_⟩
    · rw [hlookup, settle_error_congr s.lookup f e e']
    · rw [hlookup]
      exact unmoved_settle_error s.lookup f e
    · rw [hverdicts, List.foldl_append]
      rfl
  · intro c hc
    cases hreply : (f.call.poll m).1 with
    | none =>
      refine .inl ?_
      cases hpoll : f.call.poll m with
      | mk polled m' =>
        obtain rfl : polled = none := by rw [← hreply, hpoll]
        simpa [Sweep.step, hpoll] using hc
    | some reply =>
      have hpolled : ∀ r, reply = .ok r → (m.collect f.call.ticket).1 = .ready (.ok r) ∧
          authorOf r.payload = some f.contact.id := by
        rintro r rfl
        exact ⟨(Call.collect_of_poll hreply).1, author_of_poll hexpected hreply⟩
      rw [(hstep reply hreply).1]
      rcases settle_notes s.lookup f reply fun r hr => (hpolled r hr).2 with
        heq | ⟨answer, new, hparse, -, heq⟩
      · rw [heq]
        exact .inl hc
      · rw [heq]
        by_cases hid : c.id = f.contact.id
        · obtain ⟨r, rfl⟩ := exists_response hparse
          obtain ⟨hcollect, hauthor⟩ := hpolled r rfl
          refine .inr ⟨hid, r, answer, hcollect, ?_, hparse, List.mem_append_left _ ?_⟩
          · rw [hid]
            exact authorOf_eq_some_iff.1 hauthor
          · exact List.mem_map.2 ⟨c, hc, if_pos hid⟩
        · exact .inl (List.mem_append_left _ (List.mem_map.2 ⟨c, hc, if_neg hid⟩))

end Lookup

end Kademlia
