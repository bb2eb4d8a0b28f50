import Kademlia.Proofs.Lookup.Exploration

/-!
# How an exhaustive lookup ends

An exhaustive lookup with a finding verb ends when every candidate it considers was asked and
nothing is under way any more. So all replies come in time, and its report is its last word.
-/

namespace Kademlia.Lookup

open Wire Exchange

variable {v : Verb} {target self : Id} {k concurrency : Nat} {seeds : List Contact}
  {log : List Landing} {l : Lookup} {fs new : List Flight} {s : Sweep}

/-- An exhaustive lookup with a finding verb ends and reports when nothing is under way any more
and every candidate to consider was passed. -/
structure Exhausts (v : Verb) (log : List Landing) (l : Lookup) (fs : List Flight) : Prop where
  prompt : ∀ d ∈ log, d.late = false
  silent : l.state.finished = false → l.reports = []
  ended : l.state.finished = true → fs = [] ∧ l.reports = [(v.finish l.state).2.2] ∧
    ∀ c ∈ l.next, c.id ∈ l.state.queried

/-- Having the order computed changes neither the candidates to consider nor the report. -/
lemma next_finish (hv : l.verb.isFinding = true) :
    l.finish.next = l.next ∧
      l.finish.reports = l.reports ++ [(l.verb.finish l.finish.state).2.2] := by
  obtain ⟨hverb, hstate, -, hreports⟩ := finish_of_finding hv
  constructor
  · simp only [next, hverb, hstate, Candidates.closest, Candidates.sort_sort]
  · rw [hreports, hstate]
    cases hl : l.verb <;>
      simp_all [Verb.isFinding, Verb.finish, Candidates.closest, Candidates.sort_sort]

lemma next_advance (l : Lookup) : l.advance.1.next = l.next := by
  have hk := (alike_advance l).k
  have hverb : l.advance.1.verb = l.verb := rfl
  simp only [next, candidates_advance, hk, hverb, Candidates.closest, Candidates.sort_sort]

lemma exhausts_schedule (h : Explores v seeds log l fs) (hv : v.isFinding = true)
    (hready : Ready (.new target self .exhaustive k concurrency) l fs)
    (hprompt : ∀ d ∈ log, d.late = false) (hsilent : l.reports = [])
    (hnew : List.Forall₂ Flight.Makes new (schedule l).2) :
    Exhausts v log (schedule l).1 (fs ++ new) := by
  obtain ⟨hbudget, hnew, ⟨hidle, heq⟩ | ⟨-, heq⟩⟩ := hready.schedule_cases_of_unbounded rfl hnew
  · have hadvance := h.advance hv hnew
    obtain ⟨-, hstate, -, -⟩ := finish_of_finding (l := l.advance.1) (hadvance.verb ▸ hv)
    obtain ⟨hnext, hreports⟩ := next_finish (l := l.advance.1) (hadvance.verb ▸ hv)
    rw [heq]
    refine ⟨hprompt, fun hf => absurd ((finished_finish _).symm.trans hf) (by simp), fun _ => ?_⟩
    refine ⟨hidle, ?_, fun c hc => ?_⟩
    · rw [hreports, hadvance.verb]
      exact congrArg (· ++ _) hsilent
    · rw [hnext, next_advance] at hc
      rw [hstate]
      exact hready.mem_queried_of_idle hbudget hnew hidle hc (h.ne_self (mem_of_mem_closest hc))
  · have hopen := (finished_advance l).trans hready.going
    rw [heq]
    exact ⟨hprompt, fun _ => hsilent, fun hf => absurd (hopen.symm.trans hf) (by simp)⟩

/-- When such a lookup has ended, every candidate to consider was asked and landed in time. -/
lemma Exhausts.landed (h : Exhausts v log l fs) (hexplores : Explores v seeds log l fs)
    (hl : l.state.finished = true) {c : Contact} (hc : c ∈ l.next) :
    ∃ d ∈ log, d.late = false ∧ d.flight.contact.id = c.id ∧ ∃ request,
      ⟨d.flight.contact, request, d.flight.expected⟩ ∈ l.asked ∧
      v.request l.state d.flight.contact = some (request, d.flight.expected) := by
  obtain ⟨rfl, -, hqueried⟩ := h.ended hl
  have hmade := (hexplores.passed c.id).1 (hqueried c hc)
  rw [made, List.append_nil, List.map_map] at hmade
  obtain ⟨d, hd, heq⟩ := List.mem_map.1 hmade
  exact ⟨d, hd, h.prompt d hd, heq,
    hexplores.asked d.flight (mem_made_of_mem hd [])⟩

/-- An exhaustive lookup with a finding verb ends as it should, in every run. -/
lemma Passes.exhausts (hv : v.isFinding = true)
    (h : Passes (.new v (.new target self .exhaustive k concurrency)) seeds log s) :
    Exhausts v log s.lookup (s.kept ++ s.rest) := by
  refine (h.induct_scheduled
    (P := fun log l fs => Explores v seeds log l fs ∧ Exhausts v log l fs)
    (Q := fun log l fs => Explores v seeds log l fs ∧ (∀ d ∈ log, d.late = false) ∧ l.reports = [])
    ?congr ?start ?schedule ?late ?drop ?learn).2.2.2
  case congr =>
    rintro log l flights fs fs' ⟨hexplores, hexhausts⟩ hperm
    refine ⟨(hexplores.perm hperm).congr rfl (.refl _) hexplores.memo rfl rfl rfl rfl,
      hexhausts.prompt, hexhausts.silent, fun hf => ?_⟩
    obtain ⟨rfl, hended⟩ := hexhausts.ended hf
    exact ⟨List.nil_perm.1 hperm, hended⟩
  case start =>
    exact ⟨explores_discoverAll v target self .exhaustive k concurrency seeds, by simp, rfl⟩
  case schedule =>
    rintro log l fs new hready ⟨hexplores, hprompt, hsilent⟩ hnew
    exact ⟨hexplores.schedule hv hready hnew,
      exhausts_schedule hexplores hv hready hprompt hsilent hnew⟩
  case late =>
    -- nothing is under way any more when such a lookup has ended
    rintro log l f others reply hl ⟨-, hexhausts⟩
    exact absurd (hexhausts.ended hl).1 (by simp)
  case drop =>
    rintro log l f others reply - hl ⟨hexplores, hexhausts⟩ ⟨e, hparse⟩
    exact ⟨hexplores.drop (hexplores.verb ▸ hparse), late_snoc hexhausts.prompt f reply,
      hexhausts.silent hl⟩
  case learn =>
    rintro log l f others reply answer - hl ⟨hexplores, hexhausts⟩ hparse hauthor
    refine ⟨hexplores.learn hv hparse hauthor, late_snoc hexhausts.prompt f reply, ?_⟩
    rw [learn_of_finding (hexplores.verb ▸ hv) hparse hauthor]
    exact hexhausts.silent hl

end Kademlia.Lookup
