import Kademlia.Proofs.Exchange.Polling
import Kademlia.Proofs.Lookup.Requests

/-!
# What a tick looks at

A tick looks at each request under way once, those included that are made meanwhile. It takes each reply
it finds, and keeps the requests for which it finds none. What it finds for a request does not depend on
what it looked at before.
-/

namespace Kademlia

open Wire Exchange

namespace Lookup

/-! ### The looks of a sweep -/

/-- A look at a request: what is found, and whether the lookup had ended before. -/
structure Look where
  flight : Flight
  found : Option Reply
  late : Bool

/-- The reply that is taken at a look. -/
def Look.landing? (k : Look) : Option Landing :=
  k.found.map fun reply => ⟨k.flight, reply, k.late⟩

lemma Look.landing?_of_found {k : Look} {reply : Reply} (h : k.found = some reply) :
    k.landing? = some ⟨k.flight, reply, k.late⟩ := by
  rw [Look.landing?, h]
  rfl

/-- The look at a request in the middle of a sweep. -/
def Sweep.look (s : Sweep) (f : Flight) : Look :=
  ⟨f, (f.call.poll s.multiplexer).1, s.lookup.state.finished⟩

@[simp] lemma Sweep.flight_look (s : Sweep) (f : Flight) : (s.look f).flight = f := rfl

@[simp] lemma Sweep.late_look (s : Sweep) (f : Flight) :
    (s.look f).late = s.lookup.state.finished := rfl

/-- All looks of a sweep, in their order. -/
def Sweep.looks (site : Site) (s : Sweep) : List Look :=
  match _h : s.rest with
  | [] => []
  | f :: fs => s.look f :: Sweep.looks site (s.step site f fs)
termination_by (openAnswers s.multiplexer, openCandidates s.lookup.state, s.rest.length)
decreasing_by exact Sweep.step_decreases site s f fs _h

/-- The requests that are made when a sweep looks at a request. -/
def Sweep.issued (site : Site) (s : Sweep) (f : Flight) : List Flight :=
  (issue site (s.asks f) (f.call.poll s.multiplexer).2).1

/-- All requests that are made in the course of a sweep, in their order. -/
def Sweep.newFlights (site : Site) (s : Sweep) : List Flight :=
  match _h : s.rest with
  | [] => []
  | f :: fs => s.issued site f ++ Sweep.newFlights site (s.step site f fs)
termination_by (openAnswers s.multiplexer, openCandidates s.lookup.state, s.rest.length)
decreasing_by exact Sweep.step_decreases site s f fs _h

/-- The replies taken at some looks, in their order. -/
def taken (looks : List Look) : List Landing :=
  looks.filterMap Look.landing?

/-- The requests for which nothing was found, in the order of the looks. -/
def unresolved (looks : List Look) : List Flight :=
  (looks.filter fun k => k.found.isNone).map (·.flight)

/-- Take in a reply. -/
def land (l : Lookup) (d : Landing) : Lookup :=
  (l.settle d.flight (l.verb.parse d.reply)).1

/-- What is taken from a list and what is left of it are all of it. -/
lemma perm_filterMap_append_filter {α β γ : Type} {found : α → Option β} {f : α → γ} {g : β → γ}
    (h : ∀ x y, found x = some y → g y = f x) (xs : List α) :
    ((xs.filterMap found).map g ++ (xs.filter fun x => (found x).isNone).map f).Perm (xs.map f) := by
  induction xs with
  | nil => rfl
  | cons x xs ih =>
    cases hx : found x with
    | none =>
      rw [List.filterMap_cons_none hx, List.filter_cons_of_pos (by rw [hx]; rfl)]
      exact List.perm_middle.trans (ih.cons (f x))
    | some y =>
      rw [List.filterMap_cons_some hx, List.filter_cons_of_neg (by rw [hx]; simp), List.map_cons, h x y hx]
      exact ih.cons (f x)

/-- A look either takes a reply or leaves the request under way. -/
lemma perm_taken_unresolved (looks : List Look) :
    ((taken looks).map (·.flight) ++ unresolved looks).Perm (looks.map (·.flight)) := by
  have hflight (k : Look) (d : Landing) (hd : k.landing? = some d) : d.flight = k.flight := by
    obtain ⟨reply, -, rfl⟩ := Option.map_eq_some_iff.1 hd
    rfl
  simpa only [taken, unresolved, Look.landing?, Option.isNone_map] using
    perm_filterMap_append_filter hflight looks

variable {site : Site} {s : Sweep} {f : Flight} {fs : List Flight}

lemma looks_of_nil (h : s.rest = []) : s.looks site = [] := by
  rw [Sweep.looks]
  split
  · rfl
  · simp_all

lemma looks_of_cons (h : s.rest = f :: fs) :
    s.looks site = s.look f :: (s.step site f fs).looks site := by
  rw [Sweep.looks]
  split
  · simp_all
  · next g gs h' =>
    obtain ⟨rfl, rfl⟩ := List.cons.inj (h.symm.trans h')
    rfl

lemma newFlights_of_nil (h : s.rest = []) : s.newFlights site = [] := by
  rw [Sweep.newFlights]
  split
  · rfl
  · simp_all

lemma newFlights_of_cons (h : s.rest = f :: fs) :
    s.newFlights site = s.issued site f ++ (s.step site f fs).newFlights site := by
  rw [Sweep.newFlights]
  split
  · simp_all
  · next g gs h' =>
    obtain ⟨rfl, rfl⟩ := List.cons.inj (h.symm.trans h')
    rfl

/-- A look finds nothing, and the request is kept, or a reply, which is taken in and may bring more
requests. -/
lemma Sweep.step_cases (site : Site) (s : Sweep) (f : Flight) (fs : List Flight) :
    ((s.look f).found = none ∧ s.issued site f = [] ∧
      s.step site f fs = { s with kept := s.kept ++ [f], rest := fs }) ∨
    ∃ reply, (s.look f).found = some reply ∧ s.step site f fs =
      ⟨s.lookup.land ⟨f, reply, s.lookup.state.finished⟩,
        (issue site (s.asks f) (f.call.poll s.multiplexer).2).2, s.kept,
        refill fs ++ s.issued site f,
        s.verdicts ++ [Landing.verdict s.lookup.verb ⟨f, reply, s.lookup.state.finished⟩]⟩ := by
  cases hreply : (f.call.poll s.multiplexer).1 with
  | none =>
    have hsame := Call.snd_poll_of_none hreply
    refine .inl ⟨hreply, ?_, ?_⟩
    · simp only [issued, asks, hreply, issue]
    · rw [Sweep.step, ← Prod.mk.eta (p := f.call.poll s.multiplexer), hreply, hsame]
  | some reply =>
    refine .inr ⟨reply, hreply, ?_⟩
    rw [Sweep.step, ← Prod.mk.eta (p := f.call.poll s.multiplexer), hreply]
    simp only [issued, asks, hreply, land, verdict_settle_eq _ _ _ s.lookup.state.finished]

/-- The requests that wait to be looked at wait on, until their turn comes. -/
lemma Sweep.mem_rest_step (site : Site) (s : Sweep) (f : Flight) (fs : List Flight) :
    ∀ g ∈ fs ++ s.issued site f, g ∈ (s.step site f fs).rest := by
  intro g hg
  rcases s.step_cases site f fs with ⟨-, hissued, hstep⟩ | ⟨reply, -, hstep⟩
  · rw [hstep]
    rwa [hissued, List.append_nil] at hg
  · rw [hstep]
    exact (((perm_refill fs).append_right _).mem_iff).2 hg

/-! ### What a sweep makes of its looks -/

/-- The lookup takes in the replies that were found, one after the other, and does nothing else. -/
lemma lookup_run (site : Site) (s : Sweep) :
    (s.run site).lookup = (taken (s.looks site)).foldl land s.lookup := by
  induction s using Sweep.run.induct site with
  | case1 s hrest =>
    rw [run_of_nil hrest, looks_of_nil hrest]
    rfl
  | case2 s f fs hrest ih =>
    rw [run_of_cons hrest, looks_of_cons hrest, ih]
    rcases s.step_cases site f fs with ⟨hnone, -, hstep⟩ | ⟨reply, hsome, hstep⟩
    · simp [taken, Look.landing?, hnone, hstep]
    · simp [taken, Look.landing?_of_found hsome, hstep]

/-- It says of each of them how the request fared. -/
lemma verdicts_run {v : Verb} (hv : v.Alike s.lookup.verb) (site : Site) :
    (s.run site).verdicts = s.verdicts ++ (taken (s.looks site)).map (Landing.verdict v) := by
  induction s using Sweep.run.induct site with
  | case1 s hrest =>
    rw [run_of_nil hrest, looks_of_nil hrest]
    exact (List.append_nil _).symm
  | case2 s f fs hrest ih =>
    rw [run_of_cons hrest, looks_of_cons hrest]
    rcases s.step_cases site f fs with ⟨hnone, -, hstep⟩ | ⟨reply, hsome, hstep⟩
    · rw [ih (by rw [hstep]; exact hv), hstep]
      simp [taken, Look.landing?, hnone]
    · rw [ih (by rw [hstep]; exact hv.trans (alike_settle ..)), hstep]
      simp [taken, Look.landing?_of_found hsome, hv.verdict]

/-- The requests for which nothing was found are kept. -/
lemma kept_run (site : Site) (s : Sweep) :
    (s.run site).kept = s.kept ++ unresolved (s.looks site) := by
  induction s using Sweep.run.induct site with
  | case1 s hrest =>
    rw [run_of_nil hrest, looks_of_nil hrest]
    exact (List.append_nil _).symm
  | case2 s f fs hrest ih =>
    rw [run_of_cons hrest, looks_of_cons hrest, ih]
    rcases s.step_cases site f fs with ⟨hnone, -, hstep⟩ | ⟨reply, hsome, hstep⟩
    · simp [unresolved, hstep, hnone]
    · simp [unresolved, hstep, hsome]

/-- Every request there is or will be is looked at. -/
lemma perm_looks (site : Site) (s : Sweep) :
    ((s.looks site).map (·.flight)).Perm (s.rest ++ s.newFlights site) := by
  induction s using Sweep.run.induct site with
  | case1 s hrest => rw [looks_of_nil hrest, newFlights_of_nil hrest, hrest]; rfl
  | case2 s f fs hrest ih =>
    rw [looks_of_cons hrest, newFlights_of_cons hrest, hrest, List.map_cons, List.cons_append]
    refine List.Perm.cons f (ih.trans ?_)
    rw [← List.append_assoc]
    refine List.Perm.append_right _ ?_
    rcases s.step_cases site f fs with ⟨-, hissued, hstep⟩ | ⟨reply, -, hstep⟩
    · rw [hissued, hstep, List.append_nil]
    · rw [hstep]
      exact (perm_refill fs).append_right _

/-- The requests that are made are those that the lookup asks for. -/
lemma asked_run (site : Site) (s : Sweep) :
    ∃ asks, (s.run site).lookup.asked = s.lookup.asked ++ asks ∧
      List.Forall₂ Flight.Makes (s.newFlights site) asks := by
  induction s using Sweep.run.induct site with
  | case1 s hrest =>
    rw [run_of_nil hrest, newFlights_of_nil hrest]
    exact ⟨[], (List.append_nil _).symm, .nil⟩
  | case2 s f fs hrest ih =>
    obtain ⟨asks, hasked, hmakes⟩ := ih
    rw [run_of_cons hrest, newFlights_of_cons hrest]
    refine ⟨s.asks f ++ asks, ?_, List.rel_append (makes_issue ..) hmakes⟩
    rw [hasked, asked_step, List.append_assoc]

/-! ### What is found -/

/-- Requests take the next tickets, those who hold earlier ones find the same as before, and each of them
waits or has failed. -/
lemma numbered_issue {m : Multiplexer} (h : m.Numbered) (site : Site) (asks : List Ask) :
    let step := issue site asks m
    step.2.Numbered ∧ step.2.nextTicket = m.nextTicket + step.1.length ∧
      step.1.map (·.call.ticket) = List.range' m.nextTicket step.1.length ∧
      (∀ c : Call, c.ticket < m.nextTicket → (c.poll step.2).1 = (c.poll m).1) ∧
      ∀ f ∈ step.1, (f.call.poll step.2).1 = none ∨ ∃ e, (f.call.poll step.2).1 = some (.error e) := by
  intro step
  simp only [step]
  clear step
  induction asks generalizing m with
  | nil => exact ⟨h, rfl, rfl, fun _ _ => rfl, by simp [issue]⟩
  | cons a asks ih =>
    have hissue : issue site (a :: asks) m =
        (⟨a.contact, a.expected, (m.call site.transport site.self a.contact.address
            (some a.contact.id) a.request site.now).1⟩ ::
          (issue site asks (m.call site.transport site.self a.contact.address
            (some a.contact.id) a.request site.now).2).1,
        (issue site asks (m.call site.transport site.self a.contact.address
          (some a.contact.id) a.request site.now).2).2) := rfl
    have hcall := h.call site.transport site.self a.contact.address (some a.contact.id) a.request
      site.now
    rw [hissue]
    generalize m.call site.transport site.self a.contact.address (some a.contact.id) a.request
      site.now = called at hcall ⊢
    obtain ⟨hnumbered, hticket, hnext, hothers, hfails⟩ := hcall
    obtain ⟨hnumbered', hnext', htickets, hothers', hfails'⟩ := ih hnumbered
    have hlt : m.nextTicket < called.2.nextTicket := hnext ▸ Nat.lt_succ_self m.nextTicket
    refine ⟨hnumbered', ?_, ?_, fun c hc => ?_, List.forall_mem_cons.2 ⟨?_, hfails'⟩⟩
    · rw [hnext', hnext, List.length_cons]
      exact Nat.succ_add_eq_add_succ _ _
    · rw [List.map_cons, List.length_cons, htickets, hticket, hnext, List.range'_succ]
    · exact (hothers' c (hc.trans hlt)).trans (hothers c hc)
    · rw [hothers' called.1 (hticket ▸ hlt)]
      exact hfails

/-- Requests take no reply. -/
lemma delivered_issue {m : Multiplexer} (h : m.Sound) (site : Site) (asks : List Ask) :
    m.delivered <+: (issue site asks m).2.delivered := by
  induction asks generalizing m with
  | nil => exact List.prefix_rfl
  | cons a asks ih =>
    obtain ⟨-, -, hsound, -⟩ := h.call_cases site.transport site.self a.contact.address
      (some a.contact.id) a.request site.now
    exact (h.delivered_call ..).trans (ih hsound)

lemma multiplexer_step (site : Site) (s : Sweep) (f : Flight) (fs : List Flight) :
    (s.step site f fs).multiplexer = (issue site (s.asks f) (f.call.poll s.multiplexer).2).2 := by
  cases hreply : (f.call.poll s.multiplexer).1 with
  | none =>
    rw [Sweep.step, ← Prod.mk.eta (p := f.call.poll s.multiplexer), hreply]
    simp only [Sweep.asks, hreply, issue]
  | some reply =>
    rw [Sweep.step, ← Prod.mk.eta (p := f.call.poll s.multiplexer), hreply]
    simp only [Sweep.asks, hreply]

/-- A sweep whose requests have tickets of their own, where those that were looked at still wait. -/
structure Sweep.Orderly (s : Sweep) : Prop where
  numbered : s.multiplexer.Numbered
  distinct : ((s.kept ++ s.rest).map (·.call.ticket)).Nodup
  issued : ∀ f ∈ s.kept ++ s.rest, f.call.ticket < s.multiplexer.nextTicket
  waiting : ∀ f ∈ s.kept, (f.call.poll s.multiplexer).1 = none

namespace Sweep.Orderly

/-- A look takes a reply to its request and makes more requests, which take the next tickets. Those who
hold other tickets find the same as before. -/
lemma look (h : s.Orderly) (site : Site) (f : Flight) (fs : List Flight) :
    let m := (s.step site f fs).multiplexer
    m.Numbered ∧ m.nextTicket = s.multiplexer.nextTicket + (s.issued site f).length ∧
      (s.issued site f).map (·.call.ticket) =
        List.range' s.multiplexer.nextTicket (s.issued site f).length ∧
      (∀ c : Call, c.ticket < s.multiplexer.nextTicket → c.ticket ≠ f.call.ticket →
        (c.poll m).1 = (c.poll s.multiplexer).1) ∧
      ∀ g ∈ s.issued site f, (g.call.poll m).1 = none ∨ ∃ e, (g.call.poll m).1 = some (.error e) := by
  intro m
  obtain ⟨hnumbered, hnext, htickets, hothers, hfails⟩ :=
    numbered_issue (h.numbered.poll f.call) site (s.asks f)
  have hsame : (f.call.poll s.multiplexer).2.nextTicket = s.multiplexer.nextTicket := by
    rw [Call.snd_poll]
  rw [hsame] at hnext htickets hothers
  simp only [m, multiplexer_step]
  exact ⟨hnumbered, hnext, htickets,
    fun c hc hne => (hothers c hc).trans (Call.fst_poll_poll hne), hfails⟩

/-- The request that is looked at has a ticket of its own. -/
lemma ticket_ne (h : s.Orderly) (hrest : s.rest = f :: fs) :
    ∀ g ∈ s.kept ++ fs, g.call.ticket ≠ f.call.ticket := by
  have hdistinct := h.distinct
  rw [hrest, List.map_append, List.map_cons, List.nodup_middle, ← List.map_append] at hdistinct
  intro g hg heq
  exact (List.nodup_cons.1 hdistinct).1 (heq ▸ List.mem_map_of_mem hg)

lemma step (h : s.Orderly) (site : Site) (hrest : s.rest = f :: fs) : (s.step site f fs).Orderly := by
  obtain ⟨hnumbered, hnext, htickets, hothers, -⟩ := h.look site f fs
  have hne := h.ticket_ne hrest
  have hdistinct := h.distinct
  have hissued := h.issued
  rw [hrest] at hdistinct hissued
  -- a request that is kept only moves; one that is taken makes room for new ones with later tickets
  rcases s.step_cases site f fs with ⟨hnone, -, hstep⟩ | ⟨reply, -, hstep⟩
  · rw [hstep]
    refine ⟨h.numbered, ?_, ?_,
      List.forall_mem_append.2 ⟨h.waiting, List.forall_mem_singleton.2 hnone⟩⟩
    · rw [List.append_assoc]
      exact hdistinct
    · rw [List.append_assoc]
      exact hissued
  · have hflights : (s.step site f fs).kept ++ (s.step site f fs).rest =
        s.kept ++ (refill fs ++ s.issued site f) := by rw [hstep]
    have hperm : (s.kept ++ (refill fs ++ s.issued site f)).Perm
        ((s.kept ++ fs) ++ s.issued site f) := by
      rw [List.append_assoc]
      exact ((perm_refill fs).append_right _).append_left _
    have hold : ∀ g ∈ s.kept ++ fs, g.call.ticket < s.multiplexer.nextTicket := fun g hg =>
      hissued g ((List.sublist_cons_self f fs).append_left s.kept |>.subset hg)
    have hnew : ∀ g ∈ s.issued site f, s.multiplexer.nextTicket ≤ g.call.ticket ∧
        g.call.ticket < (s.step site f fs).multiplexer.nextTicket := by
      intro g hg
      have hmem := List.mem_map_of_mem (f := (·.call.ticket)) hg
      rw [htickets, List.mem_range'_1] at hmem
      rwa [hnext]
    refine ⟨hnumbered, ?_, ?_, ?_⟩
    · rw [hflights, (hperm.map _).nodup_iff, List.map_append, List.nodup_append, htickets]
      refine ⟨?_, List.nodup_range', ?_⟩
      · exact hdistinct.sublist (((List.sublist_cons_self f fs).append_left s.kept).map _)
      · rintro t ht u hu rfl
        obtain ⟨g, hg, rfl⟩ := List.mem_map.1 ht
        exact (hold g hg).not_ge (List.mem_range'_1.1 hu).1
    · rw [hflights]
      intro g hg
      rcases List.mem_append.1 (hperm.subset hg) with hg | hg
      · rw [hnext]
        exact (hold g hg).trans_le (Nat.le_add_right _ _)
      · exact (hnew g hg).2
    · rw [show (s.step site f fs).kept = s.kept by rw [hstep]]
      intro g hg
      have hg' := List.mem_append_left fs hg
      rw [hothers g.call (hold g hg') (hne g hg')]
      exact h.waiting g hg

lemma run (h : s.Orderly) (site : Site) : (s.run site).Orderly :=
  Sweep.run_keeps (P := Sweep.Orderly) h fun _ _ _ hrest h => h.step site hrest

/-- What is found for a request is what was there for it before. -/
lemma found (h : s.Orderly) (site : Site) :
    ∀ f ∈ s.rest, ∃ k ∈ s.looks site, k.flight = f ∧ k.found = (f.call.poll s.multiplexer).1 := by
  induction s using Sweep.run.induct site with
  | case1 s hrest => simp [hrest]
  | case2 s f fs hrest ih =>
    obtain ⟨-, -, -, hothers, -⟩ := h.look site f fs
    rw [looks_of_cons hrest, hrest]
    refine List.forall_mem_cons.2 ⟨⟨s.look f, List.mem_cons_self, rfl, rfl⟩, fun g hg => ?_⟩
    obtain ⟨k, hk, hflight, hfound⟩ := ih (h.step site hrest) g
      (s.mem_rest_step site f fs g (List.mem_append_left _ hg))
    refine ⟨k, List.mem_cons_of_mem _ hk, hflight, hfound.trans ?_⟩
    refine hothers g.call (h.issued g ?_) (h.ticket_ne hrest g (List.mem_append_right _ hg))
    rw [hrest]
    exact List.mem_append_right _ (List.mem_cons_of_mem f hg)

/-- For a request that is made meanwhile an error is found, or nothing. -/
lemma found_newFlights (h : s.Orderly) (site : Site) :
    ∀ f ∈ s.newFlights site, ∃ k ∈ s.looks site, k.flight = f ∧
      (k.found = none ∨ ∃ e, k.found = some (.error e)) := by
  induction s using Sweep.run.induct site with
  | case1 s hrest => simp [newFlights_of_nil hrest]
  | case2 s f fs hrest ih =>
    obtain ⟨-, -, -, -, hfails⟩ := h.look site f fs
    rw [looks_of_cons hrest, newFlights_of_cons hrest]
    intro g hg
    rcases List.mem_append.1 hg with hg | hg
    · obtain ⟨k, hk, hflight, hfound⟩ := (h.step site hrest).found site g
        (s.mem_rest_step site f fs g (List.mem_append_right _ hg))
      exact ⟨k, List.mem_cons_of_mem _ hk, hflight, hfound.symm ▸ hfails g hg⟩
    · obtain ⟨k, hk, hfound⟩ := ih (h.step site hrest) g hg
      exact ⟨k, List.mem_cons_of_mem _ hk, hfound⟩

/-- The requests made meanwhile take the next tickets. -/
lemma tickets_newFlights (h : s.Orderly) (site : Site) :
    (s.newFlights site).map (·.call.ticket) =
      List.range' s.multiplexer.nextTicket (s.newFlights site).length := by
  induction s using Sweep.run.induct site with
  | case1 s hrest => simp [newFlights_of_nil hrest]
  | case2 s f fs hrest ih =>
    obtain ⟨-, hnext, htickets, -⟩ := h.look site f fs
    rw [newFlights_of_cons hrest, List.map_append, List.length_append, htickets,
      ih (h.step site hrest), hnext, List.range'_append_1]

end Sweep.Orderly

/-! ### A tick -/

/-- A lookup whose requests under way have tickets of their own, that were all given out. -/
structure Orderly (l : Lookup) (m : Multiplexer) : Prop where
  numbered : m.Numbered
  distinct : (l.flights.map (·.call.ticket)).Nodup
  issued : ∀ f ∈ l.flights, f.call.ticket < m.nextTicket

variable {l : Lookup} {m : Multiplexer}

lemma Orderly.sweep (h : l.Orderly m) : Sweep.Orderly ⟨l, m, [], l.flights, []⟩ :=
  ⟨h.numbered, h.distinct, h.issued, by simp⟩

lemma Orderly.tick (h : l.Orderly m) (site : Site) :
    (l.tick site m).1.Orderly (l.tick site m).2.1 := by
  obtain ⟨hnumbered, hdistinct, hissued, -⟩ := h.sweep.run site
  rw [Sweep.rest_run, List.append_nil] at hdistinct hissued
  exact ⟨hnumbered, hdistinct, hissued⟩

lemma orderly_launch (hm : m.Numbered) (l : Lookup) (site : Site) (seeds : List Contact) :
    (l.launch site seeds m).1.Orderly (l.launch site seeds m).2 := by
  obtain ⟨hnumbered, hnext, htickets, -, -⟩ := numbered_issue hm site (l.begin seeds).2
  refine ⟨hnumbered, ?_, fun f hf => ?_⟩
  · exact htickets ▸ List.nodup_range'
  · have hmem := List.mem_map_of_mem (f := (·.call.ticket)) hf
    rw [show (l.launch site seeds m).1.flights.map (·.call.ticket) = _ from htickets,
      List.mem_range'_1] at hmem
    exact hmem.2.trans_eq hnext.symm

/-- The looks of a tick, in their order. -/
def looks (l : Lookup) (site : Site) (m : Multiplexer) : List Look :=
  Sweep.looks site ⟨l, m, [], l.flights, []⟩

/-- The requests that are made in the course of a tick. -/
def newFlights (l : Lookup) (site : Site) (m : Multiplexer) : List Flight :=
  Sweep.newFlights site ⟨l, m, [], l.flights, []⟩

/-- A tick takes every reply that is there, each of them once, and keeps the other requests. -/
structure TakesOnce (l : Lookup) (site : Site) (m : Multiplexer) : Prop where
  /-- The requests made meanwhile are those the lookup asked for. -/
  made : ∃ asks, (l.tick site m).1.asked = l.asked ++ asks ∧
    List.Forall₂ Flight.Makes (l.newFlights site m) asks
  distinct : ((l.flights ++ l.newFlights site m).map (·.call.ticket)).Nodup
  /-- Every request is looked at once. -/
  looked : ((l.looks site m).map (·.flight)).Perm (l.flights ++ l.newFlights site m)
  /-- It is handed over or stays under way. -/
  divided : ((taken (l.looks site m)).map (·.flight) ++ (l.tick site m).1.flights).Perm
    (l.flights ++ l.newFlights site m)
  /-- A request whose reply is there is handed over with it. -/
  resolved : ∀ f ∈ l.flights, ∀ reply, (f.call.poll m).1 = some reply →
    ∃ late, ⟨f, reply, late⟩ ∈ taken (l.looks site m)
  /-- One whose reply is not there stays. -/
  waiting : ∀ f ∈ l.flights, (f.call.poll m).1 = none → f ∈ (l.tick site m).1.flights
  /-- One that is made meanwhile stays, unless it failed at once. -/
  rejected : ∀ f ∈ l.newFlights site m, f ∈ (l.tick site m).1.flights ∨
    ∃ e late, ⟨f, .error e, late⟩ ∈ taken (l.looks site m)
  /-- What is handed over is taken in by turns, and nothing else happens to the lookup. -/
  after : (l.tick site m).1 =
    { (taken (l.looks site m)).foldl land l with flights := (l.tick site m).1.flights }
  /-- It counts as answered or as failed. -/
  verdicts : (l.tick site m).2.2 = (taken (l.looks site m)).map (Landing.verdict l.verb)
  /-- In the end no reply is left. -/
  unresolved : ∀ f ∈ (l.tick site m).1.flights, (f.call.poll (l.tick site m).2.1).1 = none
  /-- So the same holds of the next tick. -/
  orderly : (l.tick site m).1.Orderly (l.tick site m).2.1

lemma mem_taken {looks : List Look} {k : Look} (hk : k ∈ looks) {reply : Reply}
    (hfound : k.found = some reply) : ⟨k.flight, reply, k.late⟩ ∈ taken looks :=
  List.mem_filterMap.2 ⟨k, hk, Look.landing?_of_found hfound⟩

lemma mem_unresolved {looks : List Look} {k : Look} (hk : k ∈ looks) (hfound : k.found = none) :
    k.flight ∈ unresolved looks :=
  List.mem_map_of_mem (List.mem_filter.2 ⟨hk, by rw [hfound]; rfl⟩)

/-- The order of the looks does not matter to what they find, so all replies there are get taken, however
many requests come in meanwhile. -/
theorem Orderly.takesOnce (h : l.Orderly m) (site : Site) : l.TakesOnce site m := by
  have hflights : (l.tick site m).1.flights = Lookup.unresolved (l.looks site m) :=
    kept_run site ⟨l, m, [], l.flights, []⟩
  have hlooked := perm_looks site ⟨l, m, [], l.flights, []⟩
  refine ⟨asked_run site _, ?_, hlooked, ?_, fun f hf reply hreply => ?_, fun f hf hnone => ?_,
    fun f hf => ?_, ?_, ?_, ?_, h.tick site⟩
  · rw [List.map_append, newFlights, h.sweep.tickets_newFlights site, List.nodup_append]
    refine ⟨h.distinct, List.nodup_range', ?_⟩
    rintro t ht u hu rfl
    obtain ⟨f, hf, rfl⟩ := List.mem_map.1 ht
    exact (h.issued f hf).not_ge (List.mem_range'_1.1 hu).1
  · rw [hflights]
    exact (perm_taken_unresolved _).trans hlooked
  · obtain ⟨k, hk, rfl, hfound⟩ := h.sweep.found site f hf
    exact ⟨k.late, mem_taken hk (hfound.trans hreply)⟩
  · obtain ⟨k, hk, rfl, hfound⟩ := h.sweep.found site f hf
    rw [hflights]
    exact mem_unresolved hk (hfound.trans hnone)
  · rw [hflights]
    obtain ⟨k, hk, rfl, hnone | ⟨e, hfound⟩⟩ := h.sweep.found_newFlights site f hf
    · exact .inl (mem_unresolved hk hnone)
    · exact .inr ⟨e, k.late, mem_taken hk hfound⟩
  · simp only [Lookup.tick, lookup_run]
    rfl
  · exact verdicts_run (s := ⟨l, m, [], l.flights, []⟩) (.refl l.verb) site
  · exact fun f hf => (h.sweep.run site).waiting f hf

end Lookup

end Kademlia
