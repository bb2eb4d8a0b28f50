import Kademlia.Proofs.Lookup.Handed
import Kademlia.Proofs.Lookup.Requests

/-!
# Whom a lookup asks

However often a node is listed, and at whatever addresses, a lookup asks it once at most, at the address
at which it first heard of it, and it never asks itself. A finding lookup asks only nodes that are among
the closest ones it has heard of by then.
-/

namespace Kademlia.Lookup

open Wire Exchange

variable {v : Verb} {target self : Id} {termination : Termination} {k concurrency : Nat}
  {seeds : List Contact} {log : List Landing} {l : Lookup} {f : Flight} {fs : List Flight} {s : Sweep}

/-- May these requests be asked for when the nodes `known` were heard of? Each one is for such a node, as
first heard of, and a finding lookup considers the `k` closest ones only. -/
def Due (v : Verb) (target : Id) (k : Nat) (known : List Contact) (asks : List Ask) : Prop :=
  ∀ a ∈ asks, a.contact ∈ known ∧ (v.isFinding = true → Closest k target known a.contact)

lemma due_nil (v : Verb) (target : Id) (k : Nat) (known : List Contact) : Due v target k known [] :=
  fun _ ha => absurd ha List.not_mem_nil

/-- A lookup that does not find nodes hears of nobody. -/
lemma heard_of_flat (hv : v.isFinding = false) (log : List Landing) : heard v log = [] := by
  have hnobody (answer : v.Answer) : v.listed answer = [] := by
    cases v with
    | findNode => simp [Verb.isFinding] at hv
    | findValue => simp [Verb.isFinding] at hv
    | _ => rfl
  refine List.flatMap_eq_nil_iff.2 fun d _ => ?_
  unfold Landing.listed
  split
  · exact hnobody _
  · rfl

/-! ### One step -/

/-- Whoever is scheduled was not asked before and is among the closest nodes heard of. -/
lemma Explores.due_schedule (h : Explores v seeds log l fs) (hv : v.isFinding = true)
    (hl : l.state.finished = false) :
    Due v l.state.target l.state.k (firsts l.state.self (seeds ++ heard v log))
      (Lookup.schedule l).2 := by
  have hadvance : Due v l.state.target l.state.k (firsts l.state.self (seeds ++ heard v log))
      l.advance.2 := by
    intro a ha
    have hwalks := walks_advance l
    have hnext := (hwalks.asked a ha).1
    have hfirst := h.mem_firsts_of_notMem (mem_of_mem_closest hnext) (hwalks.fresh a ha).1
    exact ⟨hfirst, fun _ => ⟨hfirst, h.countP_firsts_lt hv hnext⟩⟩
  rcases schedule_cases hl with ⟨-, heq⟩ | ⟨-, -, heq⟩ | ⟨-, -, ⟨-, heq⟩ | ⟨-, heq⟩⟩
  all_goals rw [heq]
  · exact due_nil _ _ _ _
  · exact due_nil _ _ _ _
  · exact hadvance
  · exact hadvance

/-- Whoever a finding lookup asks when it looks at a request is among the closest nodes heard of, those
included that the reply lists. -/
lemma Passes.due_of_finding (hv : v.isFinding = true)
    (h : Passes (.new v (.new target self termination k concurrency)) seeds log s) (m : Multiplexer)
    (hrest : s.rest = f :: fs) :
    Due v target k
      (firsts self (seeds ++ heard v (log ++ ({ s with multiplexer := m } : Sweep).landings f)))
      (({ s with multiplexer := m } : Sweep).asks f) := by
  obtain ⟨hrunning, halike⟩ := h.running
  have hfront : (s.kept ++ f :: fs).Perm (f :: (s.kept ++ fs)) := List.perm_middle
  have hexplores : Explores v seeds log s.lookup (f :: (s.kept ++ fs)) :=
    (hrest ▸ h.explores hv).perm hfront
  have hmem : f ∈ s.kept ++ s.rest := by simp [hrest]
  unfold Sweep.landings Sweep.asks
  cases hreply : (f.call.poll m).1 with
  | none => exact due_nil _ _ _ _
  | some reply =>
    dsimp only
    have hauthor (r : Response) (hr : reply = .ok r) : authorOf r.payload = some f.contact.id :=
      author_of_poll (h.expected hmem) (hreply.trans (congrArg some hr))
    rcases settle_cases (hrunning.unanswered f hmem) (s.lookup.verb.parse reply) with
      ⟨-, -, hnone⟩ | ⟨hl, ⟨e, hparse⟩, -, hasks⟩ | ⟨hl, answer, hparse, -, hasks⟩
    · rw [hnone]
      exact due_nil _ _ _ _
    · have hdrop := (hexplores.drop (hexplores.verb ▸ hparse)).due_schedule hv hl
      have halike' := halike.trans (alike_drop s.lookup f)
      rw [halike'.target, halike'.k, halike'.self] at hdrop
      rw [hasks, hl]
      exact hdrop
    · have hopen := (finished_learn s.lookup f answer).trans hl
      have hlearn := (hexplores.learn hv hparse hauthor).due_schedule hv hopen
      have halike' := halike.trans (alike_learn s.lookup f answer)
      rw [halike'.target, halike'.k, halike'.self] at hlearn
      rw [hasks, hl]
      exact hlearn

/-! ### Whole runs -/

/-- Whoever is asked was heard of, in every run. -/
lemma Passes.asked_firsts (h : Passes (.new v (.new target self termination k concurrency)) seeds log s) :
    ∀ a ∈ s.lookup.asked, a.contact ∈ firsts self (seeds ++ heard v log) := by
  intro a ha
  cases hv : v.isFinding with
  | true =>
    obtain ⟨flights, hmakes, hperm⟩ := h.exists_made
    obtain ⟨f, hf, hmake⟩ := exists_flight_of_makes hmakes ha
    exact hmake.contact ▸ h.mem_firsts_of_made hv f (hperm.mem_iff.2 hf)
  | false =>
    rw [heard_of_flat hv, List.append_nil]
    exact ((h.tours hv).asked a ha).1

/-- Every request is due when it is asked for, whatever the reply was that was looked at. -/
lemma Passes.due_asks (h : Passes (.new v (.new target self termination k concurrency)) seeds log s)
    (site : Site) (m : Multiplexer) (hrest : s.rest = f :: fs) :
    Due v target k
      (firsts self (seeds ++ heard v (log ++ ({ s with multiplexer := m } : Sweep).landings f)))
      (({ s with multiplexer := m } : Sweep).asks f) := by
  cases hv : v.isFinding with
  | true => exact h.due_of_finding hv m hrest
  | false =>
    intro a ha
    have hlook := h.look site m hrest
    refine ⟨hlook.asked_firsts a ?_, fun hv' => absurd (hv'.symm.trans hv) (by simp)⟩
    rw [asked_step]
    exact List.mem_append_right _ ha

/-- So is every request of the launch. -/
lemma due_launch (v : Verb) (target self : Id) (termination : Termination) (k concurrency : Nat)
    (seeds : List Contact) (site : Site) (m : Multiplexer) :
    Due v target k (firsts self seeds)
      ((new v (.new target self termination k concurrency)).launch site seeds m).1.asked := by
  have hready := ready_discoverAll v target self termination k concurrency seeds
  cases hv : v.isFinding with
  | true =>
    have hdue := (explores_discoverAll v target self termination k concurrency seeds).due_schedule hv
      hready.going
    rw [hready.alike.target, hready.alike.k, hready.alike.self] at hdue
    have hasked := asked_schedule
      (.new v ((State.new target self termination k concurrency).discoverAll seeds))
    rw [heard, List.flatMap_nil, List.append_nil] at hdue
    exact hasked ▸ hdue
  | false =>
    intro a ha
    have hlaunch : Passes (new v (.new target self termination k concurrency)) seeds [] _ :=
      .launch site m m
    have hfirst := hlaunch.asked_firsts a ha
    rw [heard, List.flatMap_nil, List.append_nil] at hfirst
    exact ⟨hfirst, fun hv' => absurd (hv'.symm.trans hv) (by simp)⟩

/-- Every node is asked once at most. -/
lemma Passes.nodup_asked
    (h : Passes (.new v (.new target self termination k concurrency)) seeds log s) :
    (s.lookup.asked.map (·.contact.id)).Nodup := by
  obtain ⟨flights, hmakes, hperm⟩ := h.exists_made
  have hmade : ((made log (s.kept ++ s.rest)).map (·.contact.id)).Nodup := by
    cases hv : v.isFinding with
    | true => exact (h.explores hv).distinct
    | false => exact (h.tours hv).distinct
  rw [← map_id_of_makes hmakes]
  exact (hperm.map _).nodup_iff.1 hmade

/-- Over its whole life a lookup asks no node twice, and never itself, and each request it asks for is made
once. It asks for requests when it is launched and when it looks at another request, and for nothing that
is not due then: only for nodes that the seeds or the replies taken by then list, each at the address at
which it was listed first, and with a finding verb only for the closest of these. And nothing else is
sent. -/
theorem asks_nobody_twice (v : Verb) (target self : Id) (termination : Termination) (k concurrency : Nat)
    (seeds : List Contact) :
    (∀ (site : Site) (m : Multiplexer),
      let launched := (new v (.new target self termination k concurrency)).launch site seeds m
      Due v target k (firsts self seeds) launched.1.asked ∧
        ∃ sent, launched.2.outbox = m.outbox ++ sent ∧
          ∀ d ∈ sent, ∃ a ∈ launched.1.asked, a.Sends site.self d) ∧
    ∀ log s, Passes (new v (.new target self termination k concurrency)) seeds log s →
      (s.lookup.asked.map (·.contact.id)).Nodup ∧
      (∀ a ∈ s.lookup.asked, a.contact.id ≠ self) ∧
      (∃ flights, List.Forall₂ Flight.Makes flights s.lookup.asked ∧
        (made log (s.kept ++ s.rest)).Perm flights) ∧
      ∀ (site : Site) (m : Multiplexer) (f : Flight) (fs : List Flight), s.rest = f :: fs →
        let looking : Sweep := { s with multiplexer := m }
        let looked := looking.step site f fs
        let known := firsts self (seeds ++ heard v (log ++ looking.landings f))
        ∃ asks, looked.lookup.asked = s.lookup.asked ++ asks ∧ Due v target k known asks ∧
          ∃ sent, looked.multiplexer.outbox = m.outbox ++ sent ∧
            ∀ d ∈ sent, ∃ a ∈ asks, a.Sends site.self d := by
  constructor
  · intro site m
    exact ⟨due_launch v target self termination k concurrency seeds site m, outbox_launch _ site seeds m⟩
  · intro log s h
    refine ⟨h.nodup_asked, fun a ha => ne_self_of_mem_firsts (h.asked_firsts a ha), h.exists_made, ?_⟩
    intro site m f fs hrest looking looked known
    exact ⟨looking.asks f, asked_step site looking f fs, h.due_asks site m hrest,
      outbox_step site looking f fs⟩

/-- Node 2 is listed at two addresses and asked at the first one, and node 9 does not ask itself. -/
example :
    let elsewhere : Contact := { Pair.node 2 with address := ⟨.v4 127 0 0 7, 7⟩ }
    (Pair.lookup.launch Pair.site [Pair.node 9, Pair.node 2, elsewhere] (Pair.holding [])).1.asked =
      [⟨Pair.node 2, .findNode (Pair.node 0).id, 0⟩] := by
  cbv

end Kademlia.Lookup
