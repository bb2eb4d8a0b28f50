import Kademlia.Proofs.Lookup.Run

/-!
# Reports are only ever added

A lookup never looks at what it reported. So it goes on in the same way whether its reports are taken
from it or not, and what it reports later comes after what it reported before.
-/

namespace Kademlia.Lookup

open Wire Exchange

/-- A lookup that had reported something before. -/
def after (rs : List Report) (l : Lookup) : Lookup :=
  { l with reports := rs ++ l.reports }

/-- A lookup whose reports were taken. -/
def relieved (l : Lookup) : Lookup :=
  { l with reports := [] }

/-- A sweep of a lookup that had reported something before. -/
def Sweep.after (rs : List Report) (s : Sweep) : Sweep :=
  { s with lookup := s.lookup.after rs }

variable (rs : List Report)

lemma after_relieved (l : Lookup) : l.relieved.after l.reports = l := by
  simp [Lookup.after, relieved]

@[simp] lemma relieved_after (l : Lookup) : (l.after rs).relieved = l.relieved :=
  rfl

@[simp] lemma isDone_after (l : Lookup) : (l.after rs).isDone = l.isDone :=
  rfl

lemma finish_after (l : Lookup) : (l.after rs).finish = l.finish.after rs := by
  simp [finish, Lookup.after]

lemma advance_after (l : Lookup) : (l.after rs).advance = (l.advance.1.after rs, l.advance.2) :=
  rfl

lemma schedule_after (l : Lookup) :
    schedule (l.after rs) = ((schedule l).1.after rs, (schedule l).2) := by
  have hfinish : (if !(l.after rs).state.finished && (l.after rs).isMet then (l.after rs).finish
      else l.after rs) = (if !l.state.finished && l.isMet then l.finish else l).after rs := by
    rw [finish_after]
    exact (apply_ite (Lookup.after rs) _ _ _).symm
  rw [schedule, schedule, hfinish]
  generalize (if !l.state.finished && l.isMet then l.finish else l) = l
  by_cases hend : (l.state.finished || l.state.budgetReached l.verb.resultCount) = true
  · rw [if_pos hend]
    exact if_pos hend
  · rw [if_neg hend]
    refine (if_neg hend).trans ?_
    simp only [advance_after, finish_after]
    by_cases hzero : l.advance.1.state.outstanding = 0
    · rw [if_pos hzero]
      simp [Lookup.after, hzero]
    · rw [if_neg hzero]
      simp [Lookup.after, hzero]

lemma drop_after (l : Lookup) (f : Flight) : (l.after rs).drop f = (l.drop f).after rs :=
  rfl

lemma learn_after (l : Lookup) (f : Flight) (answer : l.verb.Answer) :
    (l.after rs).learn f answer = (l.learn f answer).after rs := by
  simp only [learn, Lookup.after, List.append_assoc]
  rfl

lemma settle_after (l : Lookup) (f : Flight) (result : Except CallError l.verb.Answer) :
    (l.after rs).settle f result = ((l.settle f result).1.after rs, (l.settle f result).2) := by
  cases result with
  | error e =>
    by_cases hf : l.state.finished = true
    · simp [settle, Lookup.after, hf]
    · have hopen : (l.after rs).state.finished = false := Bool.eq_false_iff.2 hf
      have hl : l.state.finished = false := hopen
      have hafter := settle_error hopen f e
      rw [drop_after, schedule_after] at hafter
      rw [settle_error hl]
      exact hafter
  | ok answer =>
    by_cases hf : l.state.finished = true ∨ f.contact.id ∈ l.state.answered
    · simp [settle, Lookup.after, hf]
    · have hopen : ¬ ((l.after rs).state.finished = true ∨
          f.contact.id ∈ (l.after rs).state.answered) := hf
      have hafter := settle_ok hopen answer
      rw [learn_after, schedule_after] at hafter
      rw [settle_ok hf]
      exact hafter

/-! ### Sweeps -/

lemma step_after (site : Site) (s : Sweep) (f : Flight) (fs : List Flight) :
    (s.after rs).step site f fs = (s.step site f fs).after rs := by
  obtain ⟨l, m, kept, rest, verdicts⟩ := s
  cases hpoll : f.call.poll m with
  | mk answer m' =>
    cases answer with
    | none => simp only [Sweep.step, Sweep.after, hpoll]
    | some reply =>
      have hsettle := settle_after rs l f (l.verb.parse reply)
      simp only [Sweep.step, Sweep.after, hpoll]
      rw [show (l.after rs).settle f ((l.after rs).verb.parse reply) = _ from hsettle]

lemma run_after (site : Site) (s : Sweep) : (s.after rs).run site = (s.run site).after rs := by
  induction s using Sweep.run.induct site with
  | case1 s hrest =>
    have hrest' : (s.after rs).rest = [] := hrest
    rw [run_of_nil hrest, run_of_nil hrest']
  | case2 s f fs hrest ih =>
    have hrest' : (s.after rs).rest = f :: fs := hrest
    rw [run_of_cons hrest, run_of_cons hrest', step_after, ih]

lemma tick_after (l : Lookup) (site : Site) (m : Multiplexer) :
    (l.after rs).tick site m = ((l.tick site m).1.after rs, (l.tick site m).2) := by
  have hrun := run_after rs site ⟨l, m, [], l.flights, []⟩
  simp only [tick]
  rw [show (⟨l.after rs, m, [], (l.after rs).flights, []⟩ : Sweep).run site = _ from hrun]
  rfl

end Kademlia.Lookup
