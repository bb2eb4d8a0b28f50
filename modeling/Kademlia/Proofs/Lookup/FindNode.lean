import Kademlia.Proofs.Lookup.Exhaustion

/-!
# The contacts closest to a target

An exhaustive lookup of the nodes closest to a target delivers the closest of all the nodes it
learned of, after it asked every one of them.
-/

namespace Kademlia.Lookup

open Wire Exchange

variable {target self : Id} {k concurrency : Nat} {seeds : List Contact} {log : List Landing}
  {l : Lookup} {fs : List Flight} {s : Sweep}

lemma informed_findNode (log : List Landing) (c : Contact) :
    informed .findNode log c = { c with token := (informed .findNode log c).token } := by
  induction log using List.reverseRecOn with
  | nil => rfl
  | append_singleton log d ih =>
    rw [informed_snoc, Landing.tell]
    split
    · split
      · rw [ih]
        rfl
      · exact ih
    · exact ih

/-- A contact without a token gets the one of its own answer, unless that is empty. -/
lemma token_informed_iff (hnodup : (log.map (·.flight.contact.id)).Nodup) {c : Contact}
    (hc : c.token = none) (t : Bytes) :
    (informed .findNode log c).token = some t ↔ t ≠ [] ∧ ∃ d ∈ log, d.late = false ∧
      d.flight.contact.id = c.id ∧
      ∃ a, Call.parse FindNode.Answer d.reply = .ok a ∧ a.token = t := by
  constructor
  · intro htoken
    by_cases hland : ∃ d ∈ log, d.flight.contact.id = c.id
    · obtain ⟨d, hd, hid⟩ := hland
      rw [informed_of_mem hnodup hd hid, Landing.tell] at htoken
      split at htoken
      · next a ha =>
        obtain ⟨hlate, hparse⟩ := Landing.answer?_eq_some_iff.1 ha
        rw [if_pos hid.symm] at htoken
        simp only [Verb.tell, Contact.withToken, List.isEmpty_iff] at htoken
        split_ifs at htoken with hempty
        obtain rfl := Option.some.inj htoken
        exact ⟨hempty, d, hd, hlate, hid, a, hparse, rfl⟩
      · rw [hc] at htoken
        exact absurd htoken (by simp)
    · rw [informed_of_notMem fun d hd hid => hland ⟨d, hd, hid⟩, hc] at htoken
      exact absurd htoken (by simp)
  · rintro ⟨hempty, d, hd, hlate, hid, a, hparse, rfl⟩
    rw [informed_of_mem hnodup hd hid, Landing.tell,
      (Landing.answer?_eq_some_iff (v := .findNode)).2 ⟨hlate, hparse⟩]
    dsimp only
    rw [if_pos hid.symm]
    simp [Verb.tell, Contact.withToken, hempty]

/-- Contacts learned of have no token if the seeds have none. -/
lemma token_of_mem_firsts {v : Verb} (hseeds : ∀ c ∈ seeds, c.token = none) {c : Contact}
    (hc : c ∈ firsts self (seeds ++ heard v log)) : c.token = none := by
  rcases List.mem_append.1 (mem_of_mem_firsts hc) with hc | hc
  · exact hseeds c hc
  · rw [eq_bare_of_mem_heard hc]
    rfl

/-- When an exhaustive lookup of the nodes closest to a target ends, it delivers the closest of the
nodes it learned of, each one once and at the address first heard of. All of them were asked and had
landed by then, and each one carries the token of its own answer. -/
theorem findNode_delivers_closest (hseeds : ∀ c ∈ seeds, c.token = none)
    (h : Passes (new .findNode (.new target self .exhaustive k concurrency)) seeds log s)
    (hfinished : s.lookup.state.finished = true) :
    let known := firsts self (seeds ++ heard .findNode log)
    ∃ cs, s.lookup.reports = [.contacts cs] ∧
      cs.length = min k known.length ∧
      cs.Pairwise (fun a b => (a.id.xor target).toNat < (b.id.xor target).toNat) ∧
      (∀ c ∈ cs, ∃ d ∈ known, c = { d with token := c.token }) ∧
      (∀ d ∈ known, d.id ∉ cs.map (·.id) →
        ∀ c ∈ cs, (c.id.xor target).toNat < (d.id.xor target).toNat) ∧
      (∀ c ∈ cs, ∃ d ∈ log, d.late = false ∧ d.flight.contact.id = c.id ∧
        ⟨d.flight.contact, .findNode target, 0⟩ ∈ s.lookup.asked) ∧
      ∀ c ∈ cs, ∀ t, c.token = some t ↔ t ≠ [] ∧ ∃ d ∈ log, d.late = false ∧
        d.flight.contact.id = c.id ∧
        ∃ a, Call.parse FindNode.Answer d.reply = .ok a ∧ a.token = t := by
  intro known
  obtain ⟨-, halike⟩ := h.running
  have hexplores := h.explores rfl
  have hexhausts := h.exhausts rfl
  have hself : s.lookup.state.self = self := halike.self
  have hk : s.lookup.state.k = k := halike.k
  have hcentre : s.lookup.state.candidates.target = target :=
    hexplores.centre.trans halike.target
  have hnext : s.lookup.next = s.lookup.state.candidates.ranking.take k :=
    hk ▸ hexplores.next_eq rfl
  have hmem (c : Contact) : c ∈ s.lookup.state.candidates.ranking ↔
      ∃ d ∈ known, informed .findNode log d = c := by
    rw [hexplores.mem_ranking_iff, hself]
  have hid (d : Contact) : (informed .findNode log d).id = d.id := id_informed .findNode log d
  have hsource (c : Contact) (hc : c ∈ s.lookup.next) :
      ∃ d ∈ known, informed .findNode log d = c := (hmem c).1 (List.mem_of_mem_take (hnext ▸ hc))
  refine ⟨s.lookup.next, ?_, ?_, ?_, ?_, ?_, ?_, ?_⟩
  · rw [(hexhausts.ended hfinished).2.1, next, hexplores.verb]
    rfl
  · rw [hnext, List.length_take, (Candidates.ranking_perm _).length_eq, hexplores.found,
      List.length_map, hself]
  · rw [hnext, ← hcentre]
    exact (Candidates.pairwise_ranking _).take
  · intro c hc
    obtain ⟨d, hd, rfl⟩ := hsource c hc
    exact ⟨d, hd, informed_findNode log d⟩
  · intro d hd hout c hc
    -- who is left out stands behind the first `k` of the ranking
    have hrest : informed .findNode log d ∈ s.lookup.state.candidates.ranking.drop k := by
      have hall := (hmem _).2 ⟨d, hd, rfl⟩
      rw [← List.take_append_drop k s.lookup.state.candidates.ranking] at hall
      rcases List.mem_append.1 hall with hin | hin
      · exact absurd (List.mem_map.2 ⟨_, hnext ▸ hin, hid d⟩) hout
      · exact hin
    have hfarther := Candidates.lt_of_take_of_drop (hnext ▸ hc) hrest
    rwa [hid, hcentre] at hfarther
  · intro c hc
    obtain ⟨d, hd, hlate, heq, request, hasked, hrequest⟩ :=
      hexhausts.landed hexplores hfinished hc
    simp only [Verb.request, halike.target, Option.some.injEq, Prod.mk.injEq] at hrequest
    obtain ⟨rfl, hexpected⟩ := hrequest
    rw [← hexpected] at hasked
    exact ⟨d, hd, hlate, heq, hasked⟩
  · intro c hc t
    obtain ⟨d, hd, rfl⟩ := hsource c hc
    rw [hid]
    exact token_informed_iff hexplores.nodup_log (token_of_mem_firsts hseeds hd) t

/-! ### A run with two nodes -/

namespace Pair

/-- A contact named by one octet. -/
def node (b : UInt8) : Contact :=
  { id := ⟨List.replicate 20 b, List.length_replicate⟩, address := ⟨.v4 127 0 0 b, 7⟩ }

/-- A lookup of the two nodes closest to node 0, by node 9. -/
def lookup : Lookup :=
  new .findNode (.new (node 0).id (node 9).id .exhaustive 2 3)

def site : Site :=
  ⟨fun _ => none, (node 9).id, 0⟩

/-- A multiplexer where some replies wait. -/
def holding (delivered : List Delivery) : Multiplexer :=
  { Multiplexer.new (node 9).address 10 1472 ⟨id, 0⟩ with delivered }

/-- Node 2 lists node 1 and hands out a token. -/
def answer : Response :=
  ⟨(node 2).address, Bencode.Dict.ofEntries [(Key.id, .bytes (node 2).id.bytes),
    (Field.nodes.key, .bytes (node 1).compact), (Field.token.key, .bytes [116])]⟩

def started : Sweep :=
  ⟨(lookup.launch site [node 2] (holding [])).1, holding [], [],
    (lookup.launch site [node 2] (holding [])).1.flights, []⟩

/-- The sweep once node 2 answered. -/
def answered : Sweep :=
  ({ started with multiplexer := holding [⟨0, .ok answer⟩] } : Sweep).step site
    ⟨node 2, 0, ⟨0, some (node 2).id⟩⟩ []

/-- The sweep once the request to node 1 failed, too. -/
def ended : Sweep :=
  ({ answered with multiplexer := holding [⟨0, .error .stopped⟩] } : Sweep).step site
    ⟨node 1, 0, ⟨0, some (node 1).id⟩⟩ []

end Pair

/-- The node that failed is delivered without a token, before the one that answered. -/
theorem findNode_delivers_two : ∃ log,
    (∀ c ∈ [Pair.node 2], c.token = none) ∧ Passes Pair.lookup [Pair.node 2] log Pair.ended ∧
      Pair.ended.lookup.state.finished = true ∧
      ∃ cs, Pair.ended.lookup.reports = [.contacts cs] ∧
        cs = [Pair.node 1, (Pair.node 2).withToken [116]] ∧
        cs.length = min 2 (firsts (Pair.node 9).id ([Pair.node 2] ++ heard .findNode log)).length ∧
        cs.Pairwise fun a b =>
          (a.id.xor (Pair.node 0).id).toNat < (b.id.xor (Pair.node 0).id).toNat := by
  have hseeds : ∀ c ∈ [Pair.node 2], c.token = none := by simp [Pair.node]
  have hstarted : Passes Pair.lookup [Pair.node 2] [] Pair.started :=
    .launch Pair.site (Pair.holding []) (Pair.holding [])
  obtain ⟨_, hanswered⟩ : ∃ log, Passes Pair.lookup [Pair.node 2] log Pair.answered :=
    ⟨_, hstarted.look Pair.site (Pair.holding [⟨0, .ok Pair.answer⟩]) (by cbv)⟩
  obtain ⟨log, hended⟩ : ∃ log, Passes Pair.lookup [Pair.node 2] log Pair.ended :=
    ⟨_, hanswered.look Pair.site (Pair.holding [⟨0, .error .stopped⟩]) (by cbv)⟩
  have hfinished : Pair.ended.lookup.state.finished = true := by cbv
  obtain ⟨cs, hreports, hlength, hsorted, -⟩ :=
    findNode_delivers_closest hseeds hended hfinished
  have hcs : Pair.ended.lookup.reports =
      [.contacts [Pair.node 1, (Pair.node 2).withToken [116]]] := by cbv
  refine ⟨log, hseeds, hended, hfinished, cs, hreports, ?_, hlength, hsorted⟩
  simpa [hcs] using hreports.symm

end Kademlia.Lookup
