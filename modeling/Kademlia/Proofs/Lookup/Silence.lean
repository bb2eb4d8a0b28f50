import Kademlia.Proofs.Exchange.Silence
import Kademlia.Proofs.Lookup.Ending
import Kademlia.Proofs.Lookup.Reports

/-!
# Lookups to which nobody answers

A sweep over requests that were all given up, without a response, leaves none of them waiting. Each of
them may make the lookup ask somebody else, so that requests are under way again, but for each of these
a candidate was passed, and errors bring no new ones. So with every such sweep a lookup ends or has
fewer candidates left.
-/

namespace Kademlia.Lookup

open Wire Exchange

variable {sent : List Datagram} {m m' : Multiplexer} {l : Lookup} {timeout limit : Nat} {site : Site}

/-! ### Deadlines -/

lemma prompt_issue (h : m.Prompt timeout limit) (hnow : site.now + timeout ≤ limit)
    (asks : List Ask) : (issue site asks m).2.Prompt timeout limit := by
  induction asks generalizing m with
  | nil => exact h
  | cons a asks ih =>
    exact ih (h.call site.transport site.self a.contact.address (some a.contact.id) a.request hnow)

lemma prompt_launch (h : m.Prompt timeout limit) (hnow : site.now + timeout ≤ limit) (l : Lookup)
    (seeds : List Contact) : (l.launch site seeds m).2.Prompt timeout limit :=
  prompt_issue h hnow (l.begin seeds).2

lemma prompt_step {s : Sweep} (h : s.multiplexer.Prompt timeout limit)
    (hnow : site.now + timeout ≤ limit) (f : Flight) (fs : List Flight) :
    (s.step site f fs).multiplexer.Prompt timeout limit := by
  have hpoll := h.poll f.call
  unfold Sweep.step
  generalize f.call.poll s.multiplexer = polled at hpoll
  obtain ⟨answer, m'⟩ := polled
  cases answer with
  | none => exact hpoll
  | some reply => exact prompt_issue hpoll hnow _

lemma prompt_tick (h : m.Prompt timeout limit) (hnow : site.now + timeout ≤ limit) (l : Lookup) :
    (l.tick site m).2.1.Prompt timeout limit :=
  Sweep.run_keeps (P := fun s => s.multiplexer.Prompt timeout limit) (s := ⟨l, m, [], l.flights, []⟩)
    h fun _ f fs _ h => prompt_step h hnow f fs

/-! ### Responses -/

/-- Requests are made under new tickets. -/
lemma le_ticket_issue (h : m.Grounded sent) (site : Site) (asks : List Ask) :
    ∀ f ∈ (issue site asks m).1, m.nextTicket ≤ f.call.ticket := by
  induction asks generalizing m with
  | nil => simp [issue]
  | cons a asks ih =>
    have hcall := h.sound.quiet_call site.transport site.self a.contact.address
      (some a.contact.id) a.request site.now
    intro f hf
    rcases List.mem_cons.1 hf with rfl | hf
    · refine Nat.le_of_eq ?_
      dsimp only [Multiplexer.call]
      cases a.request.arguments site.self with
      | error e => rfl
      | ok arguments => exact (h.sound.request ..).1.symm
    · exact hcall.next.trans (ih (h.quiet hcall) f hf)

/-- No response is there for a request that was made just now. -/
lemma unanswered_issue (h : m.Grounded sent) (site : Site) (asks : List Ask) :
    ∀ f ∈ (issue site asks m).1, (issue site asks m).2.Unanswered f.call.ticket :=
  fun f hf => (h.unanswered (le_ticket_issue h site asks f hf)).quiet
    (awaits_issue (V := fun _ _ => True) h site asks).1

/-- A request that waits on after a sweep was given no response. -/
lemma unanswered_tick (hm : m.Grounded sent) (site : Site) (l : Lookup) :
    ∀ f ∈ (l.tick site m).1.flights, (l.tick site m).2.1.Unanswered f.call.ticket := by
  refine (Sweep.run_keeps (P := fun s => s.multiplexer.Grounded sent ∧
    ∀ f ∈ s.kept, s.multiplexer.Unanswered f.call.ticket) (s := ⟨l, m, [], l.flights, []⟩)
    ⟨hm, by simp⟩ ?_).2
  rintro s f fs hrest ⟨hs, hkept⟩
  have hpoll := hs.sound.quiet_poll f.call
  cases hpolled : f.call.poll s.multiplexer with
  | mk answer m' =>
    rw [hpolled] at hpoll
    cases answer with
    | none =>
      have hf := (hs.sound.waits_of_poll (by rw [hpolled])).1
      simp only [Sweep.step, hpolled]
      refine ⟨hs.quiet hpoll, List.forall_mem_append.2 ⟨fun g hg => (hkept g hg).quiet hpoll, ?_⟩⟩
      exact List.forall_mem_singleton.2 (hf.quiet hpoll)
    | some reply =>
      simp only [Sweep.step, hpolled]
      have hissue := (awaits_issue (V := fun _ _ => True) (hs.quiet hpoll) site
        (s.lookup.settle f (s.lookup.verb.parse reply)).2.1).1
      exact ⟨(hs.quiet hpoll).quiet hissue, fun g hg => ((hkept g hg).quiet hpoll).quiet hissue⟩

/-! ### A sweep over requests that were given up -/

/-- A sweep that started at a multiplexer where nothing waited and no response was there for the
requests of the lookup. A request that waits on is a new one, and there is a new one only if some of
the `n` candidates that were left at the start were passed. -/
structure Sweep.Silent (m : Multiplexer) (n : Nat) (s : Sweep) : Prop where
  quiet : m.Quiet s.multiplexer
  rest : ∀ f ∈ s.rest, m.Unanswered f.call.ticket
  kept : ∀ f ∈ s.kept, m.nextTicket ≤ f.call.ticket
  bounded : openCandidates s.lookup.state ≤ n
  used : ∀ f ∈ s.kept ++ s.rest, m.nextTicket ≤ f.call.ticket → openCandidates s.lookup.state < n

lemma Sweep.Silent.step {n : Nat} {s : Sweep} (h : s.Silent m n) (hm : m.Grounded sent)
    (hidle : ∀ a, m.transactions a = []) (site : Site) {f : Flight} {fs : List Flight}
    (hrest : s.rest = f :: fs) : (s.step site f fs).Silent m n := by
  obtain ⟨hquiet, hunanswered, hkept, hbounded, hused⟩ := h
  rw [hrest] at hunanswered hused
  have hs := hm.quiet hquiet
  have hpoll := hs.sound.quiet_poll f.call
  cases hpolled : f.call.poll s.multiplexer with
  | mk answer m' =>
    rw [hpolled] at hpoll
    cases answer with
    | none =>
      -- nothing waited at the start, so what waits was asked for since
      obtain ⟨-, a, t, ht, hticket⟩ := hs.sound.waits_of_poll (c := f.call) (by rw [hpolled])
      have hnew : m.nextTicket ≤ f.call.ticket := by
        rcases hquiet.waiting a t ht with hold | ⟨hle, -⟩
        · simp [hidle] at hold
        · exact hticket ▸ hle
      simp only [Sweep.step, hpolled]
      refine ⟨hquiet.trans hpoll, fun g hg => hunanswered g (List.mem_cons_of_mem f hg),
        List.forall_mem_append.2 ⟨hkept, List.forall_mem_singleton.2 hnew⟩, hbounded, ?_⟩
      rw [List.append_assoc]
      exact hused
    | some reply =>
      have hsome : (f.call.poll s.multiplexer).1 = some reply := by rw [hpolled]
      obtain ⟨e, rfl⟩ := ((hunanswered f List.mem_cons_self).quiet hquiet).exists_error hsome
      obtain ⟨hle, hlt⟩ := openCandidates_settle_error s.lookup f e
      simp only [Sweep.step, hpolled, parse_error]
      have hsettled := hs.quiet hpoll
      generalize (s.lookup.settle f (.error e)).2.1 = asks at hlt ⊢
      have hissue := (awaits_issue (V := fun _ _ => True) hsettled site asks).1
      have hnew : ∀ g ∈ (issue site asks m').1, m.nextTicket ≤ g.call.ticket := fun g hg =>
        (hquiet.trans hpoll).next.trans (le_ticket_issue hsettled site asks g hg)
      refine ⟨(hquiet.trans hpoll).trans hissue, fun g hg => ?_, hkept, hle.trans hbounded,
        fun g hg hticket => ?_⟩
      · rcases List.mem_append.1 hg with hg | hg
        · exact hunanswered g (List.mem_cons_of_mem f ((perm_refill fs).subset hg))
        · exact hm.unanswered (hnew g hg)
      · by_cases hasks : asks = []
        · subst hasks
          refine hle.trans_lt (hused g ?_ hticket)
          rcases List.mem_append.1 hg with hg | hg
          · exact List.mem_append_left _ hg
          · have hg := (perm_refill fs).subset (by simpa [issue] using hg)
            exact List.mem_append_right _ (List.mem_cons_of_mem f hg)
        · exact (hlt hasks).trans_le hbounded

/-- After a sweep over requests that were all given up, requests are under way only if there are
fewer candidates left than before. -/
lemma openCandidates_tick (hm : m.Grounded sent) (hidle : ∀ a, m.transactions a = [])
    (hquiet : m.Quiet m')
    (hl : ∀ f ∈ l.flights, f.call.ticket < m.nextTicket ∧ m.Unanswered f.call.ticket) (site : Site)
    (hflights : (l.tick site m').1.flights ≠ []) :
    openCandidates (l.tick site m').1.state < openCandidates l.state := by
  have hrun : (Sweep.run site ⟨l, m', [], l.flights, []⟩).Silent m (openCandidates l.state) :=
    Sweep.run_keeps (P := fun s => s.Silent m (openCandidates l.state))
    ⟨hquiet, fun f hf => (hl f hf).2, by simp, le_rfl,
      fun f hf hticket => absurd (hl f (by simpa using hf)).1 hticket.not_gt⟩
    fun s f fs hrest h => h.step hm hidle site hrest
  obtain ⟨f, hf⟩ := List.exists_mem_of_ne_nil _ hflights
  exact hrun.used f (List.mem_append_left _ hf) (hrun.kept f hf)

/-! ### Lookups whose reports are taken -/

/-- A lookup in the course of a run whose reports were taken, with the termination it was launched
with. -/
structure Underway (termination : Termination) (l : Lookup) : Prop where
  relieved : l.reports = []
  rests : ∃ verb target self k concurrency seeds log rs,
    Rests (new verb (.new target self termination k concurrency)) seeds log (l.after rs)

variable {termination : Termination}

lemma underway_relieved {verb : Verb} {target self : Id} {k concurrency : Nat}
    {seeds : List Contact} {log : List Landing} {rs : List Report}
    (h : Rests (new verb (.new target self termination k concurrency)) seeds log (l.after rs)) :
    l.relieved.Underway termination := by
  refine ⟨rfl, verb, target, self, k, concurrency, seeds, log, rs ++ l.reports, ?_⟩
  rwa [Lookup.after, relieved, List.append_nil]

lemma underway_launch (verb : Verb) (target self : Id) (termination : Termination)
    (k concurrency : Nat) (site : Site) (seeds : List Contact) (m : Multiplexer) :
    ((new verb (.new target self termination k concurrency)).launch site seeds m).1.relieved.Underway
      termination :=
  underway_relieved (show Rests _ seeds [] (Lookup.after [] _) from rests_launch _ seeds site m)

lemma Underway.tick (h : l.Underway termination) (site : Site) (m : Multiplexer) :
    (l.tick site m).1.relieved.Underway termination := by
  obtain ⟨verb, target, self, k, concurrency, seeds, log, rs, hrests⟩ := h.rests
  obtain ⟨log', htick⟩ := hrests.tick site m
  rw [tick_after] at htick
  exact underway_relieved htick

/-- A lookup that is not done has requests under way. -/
lemma Underway.flights_ne_nil (h : l.Underway termination) (hl : l.isDone = false) :
    l.flights ≠ [] := by
  intro hnil
  obtain ⟨verb, target, self, k, concurrency, seeds, log, rs, hrests⟩ := h.rests
  obtain ⟨m, hpasses⟩ := hrests.exists_passes
  have hgoing : l.state.finished = false := by simpa [isDone, hnil] using hl
  exact hpasses.running.1.waiting hgoing hnil

/-- Without a budget a lookup that has ended has no requests under way. -/
lemma Underway.flights_eq_nil (h : l.Underway termination) (hunbounded : termination.budget = none)
    (hl : l.state.finished = true) : l.flights = [] := by
  obtain ⟨verb, target, self, k, concurrency, seeds, log, rs, hrests⟩ := h.rests
  obtain ⟨m, hpasses⟩ := hrests.exists_passes
  refine (hpasses.induct_scheduled (P := fun _ l fs => l.state.finished = true → fs = [])
    (Q := fun _ _ _ => True) ?congr trivial ?schedule ?late (fun _ _ _ _ _ _ _ _ _ => trivial)
    (fun _ _ _ _ _ _ _ _ _ _ _ => trivial)).2.2 hl
  case congr => exact fun _ _ _ fs fs' hP hperm hl => List.perm_nil.1 (hP hl ▸ hperm.symm)
  case schedule =>
    intro log l fs new hready _ hnew hl
    rcases (hready.schedule_cases_of_unbounded hunbounded hnew).2.2 with ⟨hnil, -⟩ | ⟨-, heq⟩
    · exact hnil
    · rw [heq, finished_advance, hready.going] at hl
      exact absurd hl (by simp)
  case late => exact fun log l f others reply hl hP _ => absurd (hP hl) (List.cons_ne_nil _ _)

/-! ### The last report -/

lemma Reported.exists_closes {v : Verb} {reports : List Report} (h : Reported v true reports) :
    ∃ last ∈ reports, v.Closes last := by
  cases h with
  | ended h hlast => exact ⟨_, List.mem_append_right _ (List.mem_singleton_self _), hlast⟩

lemma closes_launch (verb : Verb) (target self : Id) (termination : Termination)
    (k concurrency : Nat) (site : Site) (seeds : List Contact) (m : Multiplexer) :
    let launched := (new verb (.new target self termination k concurrency)).launch site seeds m
    launched.1.state.finished = true →
      ∃ last ∈ launched.1.reports, launched.1.verb.Closes last := by
  intro launched hlaunched
  have hpasses := rests_launch (new verb (.new target self termination k concurrency)) seeds site m m
  obtain ⟨halike, hreported⟩ := Passes.reported (v := verb) rfl hpasses
  rw [hlaunched] at hreported
  obtain ⟨last, hmem, hcloses⟩ := hreported.exists_closes
  exact ⟨last, hmem, halike.closes ▸ hcloses⟩

/-- What a lookup keeps whenever a request of it lands, it keeps in a sweep. -/
lemma Sweep.run_keeps_lookup {P : Lookup → Prop} {s : Sweep} (h : P s.lookup)
    (hsettle : ∀ l f reply, P l → P (l.settle f (l.verb.parse reply)).1) :
    P (s.run site).lookup := by
  refine Sweep.run_keeps (P := fun s => P s.lookup) h fun s f fs _ hs => ?_
  cases hpolled : f.call.poll s.multiplexer with
  | mk answer m' =>
    cases answer with
    | none => simpa only [Sweep.step, hpolled] using hs
    | some reply => simpa only [Sweep.step, hpolled] using hsettle s.lookup f reply hs

lemma alike_tick (l : Lookup) (site : Site) (m : Multiplexer) :
    l.verb.Alike (l.tick site m).1.verb :=
  Sweep.run_keeps_lookup (P := fun l' => l.verb.Alike l'.verb) (s := ⟨l, m, [], l.flights, []⟩)
    (.refl l.verb) fun l' f _ h => h.trans (alike_settle l' f _)

/-- A lookup that ends in a sweep makes its last report in it. -/
lemma closes_tick (hl : l.state.finished = false) (hreports : l.reports = []) (site : Site)
    (m : Multiplexer) (hended : (l.tick site m).1.state.finished = true) :
    ∃ last ∈ (l.tick site m).1.reports, l.verb.Closes last := by
  have hreported : Reported l.verb (l.tick site m).1.state.finished (l.tick site m).1.reports :=
    (Sweep.run_keeps_lookup (P := fun l' => l.verb.Alike l'.verb ∧
      Reported l.verb l'.state.finished l'.reports) (s := ⟨l, m, [], l.flights, []⟩)
      ⟨.refl l.verb, by rw [hl, hreports]; exact .going l.verb.batches_nil⟩
      fun l' f _ ⟨halike, h⟩ => ⟨halike.trans (alike_settle l' f _), h.settle halike f _⟩).2
  rw [hended] at hreported
  exact hreported.exists_closes

end Kademlia.Lookup
