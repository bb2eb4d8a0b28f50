import Kademlia.Lookup.Sweep
import Kademlia.Proofs.Exchange.Verification
import Kademlia.Proofs.Lookup.Schedule

/-!
# Runs of a lookup

A run launches a lookup with some seeds and then sweeps over its requests again and again. Between
two looks at a request the network may do anything, so that the replies come in any order and with
any outcome. `Passes` holds of every sweep that is met on the way, with the replies taken until
then; `Passes.induct` leaves of a run what matters for the lookup: requests are made and then land
one after another, in whatever order.
-/

namespace Kademlia.Lookup

open Bencode Wire Exchange

/-- A reply that was taken, the request it is to, and whether the lookup had ended before. -/
structure Landing where
  flight : Flight
  reply : Reply
  late : Bool

lemma late_snoc {log : List Landing} (h : ∀ d ∈ log, d.late = false) (f : Flight) (reply : Reply) :
    ∀ d ∈ log ++ [⟨f, reply, false⟩], d.late = false :=
  List.forall_mem_append.2 ⟨h, List.forall_mem_singleton.2 rfl⟩

/-- What looking at a request takes in. -/
def Sweep.landings (s : Sweep) (f : Flight) : List Landing :=
  match (f.call.poll s.multiplexer).1 with
  | some reply => [⟨f, reply, s.lookup.state.finished⟩]
  | none => []

/-- The sweeps met in the runs of a lookup, with the replies taken before. -/
inductive Passes (l : Lookup) (seeds : List Contact) : List Landing → Sweep → Prop where
  /-- The first sweep starts with the requests made at the launch. -/
  | launch (site : Site) (m m' : Multiplexer) :
    Passes l seeds [] ⟨(l.launch site seeds m).1, m', [], (l.launch site seeds m).1.flights, []⟩
  /-- One request is looked at, after the network did something. -/
  | look {log : List Landing} {s : Sweep} {f : Flight} {fs : List Flight} (site : Site)
      (m : Multiplexer) (before : Passes l seeds log s) (rest : s.rest = f :: fs) :
    Passes l seeds (log ++ ({ s with multiplexer := m } : Sweep).landings f)
      (({ s with multiplexer := m } : Sweep).step site f fs)
  /-- A sweep is over and the next one starts with the requests that still wait. -/
  | again {log : List Landing} {s : Sweep} (m : Multiplexer) (before : Passes l seeds log s)
      (rest : s.rest = []) :
    Passes l seeds log ⟨{ s.lookup with flights := s.kept }, m, [], s.kept, []⟩

/-- The lookups met in those runs between two sweeps. -/
def Rests (l : Lookup) (seeds : List Contact) (log : List Landing) (l' : Lookup) : Prop :=
  ∀ m, Passes l seeds log ⟨l', m, [], l'.flights, []⟩

section Ticks

variable {l l' : Lookup} {seeds : List Contact} {log : List Landing}

lemma rests_launch (l : Lookup) (seeds : List Contact) (site : Site) (m : Multiplexer) :
    Rests l seeds [] (l.launch site seeds m).1 :=
  fun m' => .launch site m m'

lemma run_of_nil {site : Site} {s : Sweep} (h : s.rest = []) : s.run site = s := by
  rw [Sweep.run]
  split
  · rfl
  · simp_all

lemma run_of_cons {site : Site} {s : Sweep} {f : Flight} {fs : List Flight} (h : s.rest = f :: fs) :
    s.run site = (s.step site f fs).run site := by
  rw [Sweep.run]
  split
  · simp_all
  · next g gs h' =>
    obtain ⟨rfl, rfl⟩ := List.cons.inj (h.symm.trans h')
    rfl

/-- A whole sweep is made of looks at one request after another, and keeps what each of them keeps. -/
lemma Sweep.run_keeps {P : Sweep → Prop} {site : Site} {s : Sweep} (h : P s)
    (hstep : ∀ s f fs, s.rest = f :: fs → P s → P (s.step site f fs)) : P (s.run site) := by
  induction s using Sweep.run.induct site with
  | case1 s hrest =>
    rw [run_of_nil hrest]
    exact h
  | case2 s f fs hrest ih =>
    rw [run_of_cons hrest]
    exact ih (hstep s f fs hrest h)

lemma Sweep.rest_run (s : Sweep) (site : Site) : (s.run site).rest = [] := by
  induction s using Sweep.run.induct site with
  | case1 s hrest => rw [run_of_nil hrest, hrest]
  | case2 s f fs hrest ih => rw [run_of_cons hrest, ih]

lemma Passes.run {s : Sweep} (h : Passes l seeds log s) (site : Site) :
    ∃ log', Passes l seeds log' (s.run site) := by
  refine Sweep.run_keeps (P := fun s => ∃ log', Passes l seeds log' s) ⟨log, h⟩ ?_
  rintro s f fs hrest ⟨log', h'⟩
  exact ⟨_, h'.look site s.multiplexer hrest⟩

lemma Rests.tick (h : Rests l seeds log l') (site : Site) (m : Multiplexer) :
    ∃ log', Rests l seeds log' (l'.tick site m).1 := by
  obtain ⟨log', h'⟩ := (h m).run site
  exact ⟨log', fun m' => h'.again m' (Sweep.rest_run _ site)⟩

lemma Rests.ticks (h : Rests l seeds log l') (ticks : List (Site × Multiplexer)) :
    ∃ log', Rests l seeds log' (ticks.foldl (fun l t => (l.tick t.1 t.2).1) l') := by
  induction ticks generalizing l' log with
  | nil => exact ⟨log, h⟩
  | cons t ticks ih =>
    obtain ⟨log', h'⟩ := h.tick t.1 t.2
    exact ih h'

end Ticks

/-! ### Requests and replies -/

/-- Is this the request an ask was for? -/
structure Flight.Makes (f : Flight) (a : Ask) : Prop where
  contact : f.contact = a.contact
  expected : f.expected = a.expected
  author : f.call.expected = some f.contact.id

lemma makes_issue (site : Site) (asks : List Ask) (m : Multiplexer) :
    List.Forall₂ Flight.Makes (issue site asks m).1 asks := by
  induction asks generalizing m with
  | nil => exact .nil
  | cons a asks ih => exact .cons ⟨rfl, rfl, rfl⟩ (ih _)

lemma perm_refill {α : Type} (xs : List α) : (refill xs).Perm xs := by
  cases xs with
  | nil => exact List.Perm.refl _
  | cons x xs =>
    simp only [refill]
    refine (List.perm_append_singleton _ _).symm.trans ?_
    rw [List.dropLast_append_getLast]

/-- A reply that is taken as an answer carries the identifier that was asked for. -/
lemma author_of_poll {c : Call} {id : Id} (hid : c.expected = some id) {m : Multiplexer}
    {r : Response} (h : (c.poll m).1 = some (.ok r)) : authorOf r.payload = some id := by
  obtain ⟨-, author, hauthor, hwelcome⟩ := Call.collect_of_poll h
  rw [hauthor, hwelcome id hid]

/-- What holds when the requests of the launch are made, and goes on holding when one of the
requests under way lands, holds in every sweep of a run. -/
theorem Passes.induct {l : Lookup} {seeds : List Contact}
    {P : List Landing → Lookup → List Flight → Prop}
    (congr : ∀ log l' flights fs fs', P log l' fs → fs.Perm fs' →
      P log { l' with flights } fs')
    (start : ∀ new, List.Forall₂ Flight.Makes new (l.begin seeds).2 → P [] (l.begin seeds).1 new)
    (land : ∀ log l' f others new reply, P log l' (f :: others) →
      (∀ r, reply = .ok r → authorOf r.payload = some f.contact.id) →
      List.Forall₂ Flight.Makes new (l'.settle f (l'.verb.parse reply)).2.1 →
      P (log ++ [⟨f, reply, l'.state.finished⟩]) (l'.settle f (l'.verb.parse reply)).1
        (others ++ new))
    {log : List Landing} {s : Sweep} (h : Passes l seeds log s) :
    P log s.lookup (s.kept ++ s.rest) ∧
      ∀ f ∈ s.kept ++ s.rest, f.call.expected = some f.contact.id := by
  have hmakes {new : List Flight} {asks : List Ask} (h : List.Forall₂ Flight.Makes new asks) :
      ∀ f ∈ new, f.call.expected = some f.contact.id := by
    intro f hf
    obtain ⟨i, hi, rfl⟩ := List.mem_iff_getElem.1 hf
    exact ((List.forall₂_iff_get.1 h).2 i hi (h.length_eq ▸ hi)).author
  induction h with
  | launch site m m' =>
    have hnew := makes_issue site (l.begin seeds).2 m
    exact ⟨congr _ _ _ _ _ (start _ hnew) (List.Perm.refl _), hmakes hnew⟩
  | again m before hrest ih =>
    rw [hrest, List.append_nil] at ih
    exact ⟨congr _ _ _ _ _ ih.1 (List.Perm.refl _), ih.2⟩
  | @look log s f fs site m before hrest ih =>
    obtain ⟨hP, hauthor⟩ := ih
    rw [hrest] at hP hauthor
    have hfront : (s.kept ++ f :: fs).Perm (f :: (s.kept ++ fs)) := List.perm_middle
    cases hpoll : f.call.poll m with
    | mk answer m' =>
      cases answer with
      | none =>
        simp only [Sweep.landings, Sweep.step, hpoll, List.append_nil]
        rw [List.append_assoc]
        exact ⟨congr _ s.lookup _ _ _ hP (List.Perm.refl _), hauthor⟩
      | some reply =>
        simp only [Sweep.landings, Sweep.step, hpoll]
        have hnew := makes_issue site (s.lookup.settle f (s.lookup.verb.parse reply)).2.1 m'
        generalize (issue site (s.lookup.settle f (s.lookup.verb.parse reply)).2.1 m').1 = new at *
        have hexpected := hauthor f (by simp)
        have hland := land log s.lookup f (s.kept ++ fs) new reply
          (congr _ s.lookup s.lookup.flights _ _ hP hfront)
          (fun r hr => author_of_poll hexpected (m := m) (by rw [hpoll, hr])) hnew
        -- taking the last request to the front keeps all those under way
        have hperm : ((s.kept ++ fs) ++ new).Perm (s.kept ++ (refill fs ++ new)) := by
          rw [List.append_assoc]
          exact ((perm_refill fs).symm.append_right _).append_left _
        refine ⟨congr _ _ _ _ _ hland hperm, fun g hg => ?_⟩
        rcases List.mem_append.1 (hperm.symm.subset hg) with hg | hg
        · exact hauthor g (hfront.symm.subset (List.mem_cons_of_mem _ hg))
        · exact hmakes hnew g hg

end Kademlia.Lookup
