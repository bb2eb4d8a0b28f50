import Kademlia.Proofs.Lookup.Handed

/-!
# The holders of values

An exhaustive lookup of the nodes that hold values of a key delivers those whose own answer announced
some, however far from the key they are. Whoever is listed by others counts only once it has answered,
and nobody among the closest nodes is left out without having been asked.
-/

namespace Kademlia.Lookup

open Wire Exchange

/-! ### The closest nodes heard of -/

/-- A candidate is among the first of the ranking if fewer than so many are closer. -/
lemma Candidates.mem_take_ranking {cs : Candidates} {n : Nat} {c : Contact} (hc : c ∈ cs.ranking)
    (hcloser : (cs.found.countP fun b =>
      (b.id.xor cs.target).toNat < (c.id.xor cs.target).toNat) < n) :
    c ∈ cs.ranking.take n := by
  rw [← List.take_append_drop n cs.ranking] at hc
  refine (List.mem_append.1 hc).resolve_right fun hdrop => hcloser.not_ge ?_
  -- otherwise all of the first `n` are closer
  have hbehind : 0 < (cs.ranking.drop n).length := List.length_pos_of_mem hdrop
  rw [List.length_drop] at hbehind
  have hlength : (cs.ranking.take n).length = n := List.length_take_of_le (by omega)
  have hall : (cs.ranking.take n).countP
      (fun b => (b.id.xor cs.target).toNat < (c.id.xor cs.target).toNat) =
        (cs.ranking.take n).length :=
    List.countP_eq_length.2 fun b hb => decide_eq_true (Candidates.lt_of_take_of_drop hb hdrop)
  rw [← (Candidates.ranking_perm cs).countP_eq, ← hlength, ← hall]
  exact (List.take_sublist n cs.ranking).countP_le

section Runs

variable {v : Verb} {target self : Id} {termination : Termination} {k concurrency : Nat}
  {seeds : List Contact} {log : List Landing} {l : Lookup} {fs : List Flight} {s : Sweep}

/-- One of the closest nodes heard of is among the candidates to consider. -/
lemma Explores.mem_next_of_closest (h : Explores v seeds log l fs) (hv : v.isFinding = true)
    {c : Contact}
    (hc : Closest l.state.k l.state.target (firsts l.state.self (seeds ++ heard v log)) c) :
    informed v log c ∈ l.next := by
  obtain ⟨hknown, hcloser⟩ := hc
  rw [h.next_eq hv]
  refine Candidates.mem_take_ranking (h.mem_ranking_iff.2 ⟨c, hknown, rfl⟩) ?_
  rw [h.found, List.countP_map, h.centre]
  simpa only [Function.comp_def, id_informed] using hcloser

/-! ### What is known of a holder -/

/-- Contacts learned of announce nothing if the seeds do not. -/
lemma announced_of_mem_firsts (hseeds : ∀ c ∈ seeds, c.announced = 0) {c : Contact}
    (hc : c ∈ firsts self (seeds ++ heard v log)) : c.announced = 0 := by
  rcases List.mem_append.1 (mem_of_mem_firsts hc) with hc | hc
  · exact hseeds c hc
  · rw [eq_bare_of_mem_heard hc]
    rfl

/-- Whoever landed with an answer is known by what that answer says, and nothing else. -/
lemma informed_of_answer (hnodup : (log.map (·.flight.contact.id)).Nodup) {d : Landing} (hd : d ∈ log)
    {answer : v.Answer} (hanswer : d.answer? v = some answer) :
    informed v log d.flight.contact = v.tell answer d.flight.contact := by
  rw [informed_of_mem hnodup hd rfl, Landing.tell, hanswer]
  exact if_pos rfl

/-- A contact that announced nothing before is known to hold values only by an answer of its own. -/
lemma exists_answer_of_announced (hnodup : (log.map (·.flight.contact.id)).Nodup) {c : Contact}
    (hc : c.announced = 0) (hpos : 0 < (informed .findValue log c).announced) :
    ∃ d ∈ log, d.flight.contact.id = c.id ∧
      ∃ a : FindValue.Answer, d.answer? .findValue = some a := by
  by_cases hland : ∃ d ∈ log, d.flight.contact.id = c.id
  · obtain ⟨d, hd, hid⟩ := hland
    rw [informed_of_mem hnodup hd hid, Landing.tell] at hpos
    split at hpos
    · next a ha => exact ⟨d, hd, hid, a, ha⟩
    · exact absurd hc hpos.ne'
  · rw [informed_of_notMem fun d hd hid => hland ⟨d, hd, hid⟩] at hpos
    exact absurd hc hpos.ne'

/-! ### What is delivered -/

/-- An exhaustive lookup of the holders of values reports those candidates that announced some. -/
lemma Passes.reports_findValue
    (h : Passes (.new .findValue (.new target self .exhaustive k concurrency)) seeds log s)
    (hfinished : s.lookup.state.finished = true) :
    s.lookup.reports =
      [.contacts (s.lookup.state.candidates.ranking.filter fun c => 0 < c.announced)] := by
  have hexplores := h.explores rfl
  have hall : s.lookup.state.candidates.ranking.length ≤ s.lookup.state.candidates.found.length :=
    (Candidates.ranking_perm _).length_eq.le
  rw [((h.exhausts rfl).ended hfinished).2.1]
  simp only [Verb.finish, hexplores.memo.closest_eq, Option.getD_none, List.take_of_length_le hall]

/-- Whoever landed was asked, and is as first heard of. -/
lemma Passes.asked_findValue
    (h : Passes (.new .findValue (.new target self termination k concurrency)) seeds log s)
    {d : Landing} (hd : d ∈ log) :
    d.flight.contact ∈ firsts self (seeds ++ heard .findValue log) ∧
      ⟨d.flight.contact, .findValue target, 0⟩ ∈ s.lookup.asked := by
  refine ⟨h.mem_firsts_of_made rfl _ (mem_made_of_mem hd _), ?_⟩
  obtain ⟨request, hasked, hrequest⟩ := (h.explores rfl).asked d.flight (mem_made_of_mem hd _)
  simp only [Verb.request, h.running.2.target, Option.some.injEq, Prod.mk.injEq] at hrequest
  obtain ⟨rfl, hexpected⟩ := hrequest
  rwa [← hexpected] at hasked

/-- An exhaustive lookup of the holders of values delivers one list, when it ends. This has the nodes that
were asked and announced values in an answer of their own, and no others, in the order of their distance to
the key, each one with the number and the token of that answer. By then every one of the `k` closest nodes
heard of was asked and has landed. -/
theorem findValue_delivers_holders (hseeds : ∀ c ∈ seeds, c.announced = 0)
    (h : Passes (new .findValue (.new target self .exhaustive k concurrency)) seeds log s) :
    (s.lookup.state.finished = false → s.lookup.reports = []) ∧
    (s.lookup.state.finished = true →
      ∃ cs, s.lookup.reports = [.contacts cs] ∧
        cs.Pairwise (fun a b => (a.id.xor target).toNat < (b.id.xor target).toNat) ∧
        (∀ c, c ∈ cs ↔ ∃ d ∈ log, ⟨d.flight.contact, .findValue target, 0⟩ ∈ s.lookup.asked ∧
          ∃ a : FindValue.Answer, d.Answers a ∧ 0 < a.num ∧
            c = { d.flight.contact with
              token := if a.token = [] then none else some a.token, announced := a.num }) ∧
        ∀ c, Closest k target (firsts self (seeds ++ heard .findValue log)) c →
          ⟨c, .findValue target, 0⟩ ∈ s.lookup.asked ∧
            ∃ d ∈ log, d.late = false ∧ d.flight.contact = c) := by
  obtain ⟨-, halike⟩ := h.running
  have hexplores := h.explores rfl
  have hexhausts := h.exhausts rfl
  have hself : s.lookup.state.self = self := halike.self
  have hcentre : s.lookup.state.candidates.target = target :=
    hexplores.centre.trans halike.target
  have htell (a : FindValue.Answer) (c : Contact) : Verb.findValue.tell a c =
      { c with token := if a.token = [] then none else some a.token, announced := a.num } := by
    simp [Verb.tell, Contact.withToken, Contact.withAnnounced]
  refine ⟨hexhausts.silent, fun hfinished => ⟨_, h.reports_findValue hfinished, ?_, ?_, ?_⟩⟩
  · rw [← hcentre]
    exact (Candidates.pairwise_ranking _).filter _
  · intro c
    rw [List.mem_filter, hexplores.mem_ranking_iff, hself, decide_eq_true_iff]
    constructor
    · rintro ⟨⟨e, he, rfl⟩, hpos⟩
      obtain ⟨d, hd, hid, a, ha⟩ := exists_answer_of_announced hexplores.nodup_log
        (announced_of_mem_firsts hseeds he) hpos
      obtain ⟨hknown, hasked⟩ := h.asked_findValue hd
      obtain rfl : d.flight.contact = e := eq_of_mem_firsts hknown he hid
      rw [informed_of_answer hexplores.nodup_log hd ha, htell] at hpos ⊢
      obtain ⟨hlate, hparse⟩ := Landing.answer?_eq_some_iff.1 ha
      obtain ⟨r, hr, -⟩ := parse_eq_ok hparse
      exact ⟨d, hd, hasked, a, ⟨hlate, hparse, r, hr, h.verified d hd r hr⟩, hpos, rfl⟩
    · rintro ⟨d, hd, -, a, ⟨hlate, hparse, -⟩, hpos, rfl⟩
      have ha : d.answer? .findValue = some a :=
        (Landing.answer?_eq_some_iff (v := .findValue)).2 ⟨hlate, hparse⟩
      refine ⟨⟨d.flight.contact, (h.asked_findValue hd).1, ?_⟩, hpos⟩
      rw [informed_of_answer hexplores.nodup_log hd ha, htell]
  · intro c hc
    have hnext : informed .findValue log c ∈ s.lookup.next := by
      refine hexplores.mem_next_of_closest rfl ?_
      rwa [halike.k, halike.target, hself]
    obtain ⟨d, hd, hlate, hid, -⟩ := hexhausts.landed hexplores hfinished hnext
    obtain ⟨hknown, hasked⟩ := h.asked_findValue hd
    obtain rfl : d.flight.contact = c :=
      eq_of_mem_firsts hknown hc.1 (hid.trans (id_informed _ _ _))
    exact ⟨hasked, d, hd, hlate, rfl⟩

end Runs

/-! ### Two holders, one of them to consider -/

namespace Holders

open Pair (node site holding)

/-- A lookup by node 9 of the holders of values of node 0, with one candidate to consider at a time. -/
def lookup : Lookup :=
  new .findValue (.new (node 0).id (node 9).id .exhaustive 1 3)

/-- Node 2 announces one value and hands out no token; it lists node 1, which is closer. -/
def far : Response :=
  ⟨(node 2).address, Bencode.Dict.ofEntries [(Key.id, .bytes (node 2).id.bytes),
    (Field.nodes.key, .bytes (node 1).compact), (Field.num.key, .int 1)]⟩

/-- Node 1 announces two values and hands out a token. -/
def near : Response :=
  ⟨(node 1).address, Bencode.Dict.ofEntries [(Key.id, .bytes (node 1).id.bytes),
    (Field.num.key, .int 2), (Field.token.key, .bytes [116])]⟩

def started : Sweep :=
  ⟨(lookup.launch site [node 2] (holding [])).1, holding [], [],
    (lookup.launch site [node 2] (holding [])).1.flights, []⟩

/-- The sweep once node 2 answered. -/
def answered : Sweep :=
  ({ started with multiplexer := holding [⟨0, .ok far⟩] } : Sweep).step site
    ⟨node 2, 0, ⟨0, some (node 2).id⟩⟩ []

/-- The sweep once node 1 answered, too. -/
def ended : Sweep :=
  ({ answered with multiplexer := holding [⟨0, .ok near⟩] } : Sweep).step site
    ⟨node 1, 0, ⟨0, some (node 1).id⟩⟩ []

end Holders

/-- Both holders are delivered, though one was no longer among the candidates to consider. -/
theorem findValue_delivers_two : ∃ log,
    (∀ c ∈ [Pair.node 2], c.announced = 0) ∧
      Passes Holders.lookup [Pair.node 2] log Holders.ended ∧
      Holders.ended.lookup.state.finished = true ∧
      ∃ cs, Holders.ended.lookup.reports = [.contacts cs] ∧
        cs = [{ Pair.node 1 with token := some [116], announced := 2 },
          { Pair.node 2 with announced := 1 }] ∧
        cs.Pairwise fun a b =>
          (a.id.xor (Pair.node 0).id).toNat < (b.id.xor (Pair.node 0).id).toNat := by
  have hseeds : ∀ c ∈ [Pair.node 2], c.announced = 0 := by simp [Pair.node]
  have hstarted : Passes Holders.lookup [Pair.node 2] [] Holders.started :=
    .launch Pair.site (Pair.holding []) (Pair.holding [])
  obtain ⟨_, hanswered⟩ : ∃ log, Passes Holders.lookup [Pair.node 2] log Holders.answered :=
    ⟨_, hstarted.look Pair.site (Pair.holding [⟨0, .ok Holders.far⟩]) (by cbv)⟩
  obtain ⟨log, hended⟩ : ∃ log, Passes Holders.lookup [Pair.node 2] log Holders.ended :=
    ⟨_, hanswered.look Pair.site (Pair.holding [⟨0, .ok Holders.near⟩]) (by cbv)⟩
  have hfinished : Holders.ended.lookup.state.finished = true := by cbv
  obtain ⟨cs, hreports, hsorted, -⟩ := (findValue_delivers_holders hseeds hended).2 hfinished
  have hcs : Holders.ended.lookup.reports =
      [.contacts [{ Pair.node 1 with token := some [116], announced := 2 },
        { Pair.node 2 with announced := 1 }]] := by cbv
  refine ⟨log, hseeds, hended, hfinished, cs, hreports, ?_, hsorted⟩
  simpa [hcs] using hreports.symm

end Kademlia.Lookup
