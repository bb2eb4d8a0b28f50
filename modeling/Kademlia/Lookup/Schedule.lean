import Kademlia.Lookup.Verb
/-!
# Scheduling a lookup

A lookup asks the closest candidates that were not asked yet, as many at a time as its concurrency
allows, until its termination is met or nothing is under way any more. Scheduling says whom to ask
and does not depend on how the requests fare.
-/

namespace Kademlia

open Wire Exchange

/-- A request to a candidate that is under way, and how many results it should bring. -/
structure Lookup.Flight where
  contact : Contact
  expected : Nat
  call : Call
  deriving DecidableEq, Repr

/-- A request to make. -/
structure Lookup.Ask where
  contact : Contact
  request : Request
  expected : Nat
  deriving DecidableEq, Repr

/-- A lookup with its requests under way, all requests made so far and the reports not taken yet. -/
structure Lookup where
  verb : Lookup.Verb
  state : Lookup.State
  flights : List Lookup.Flight
  asked : List Lookup.Ask
  reports : List Lookup.Report

namespace Lookup

/-- How the request to a contact fared. -/
inductive Verdict where
  | answered (contact : Contact)
  | failed (contact : Contact)
  deriving DecidableEq, Repr

/-- A lookup that did not start yet. -/
def new (verb : Verb) (state : State) : Lookup :=
  ⟨verb, state, [], [], []⟩

/-- Has the lookup ended, with no late answer left to wait for? -/
def isDone (l : Lookup) : Bool :=
  l.state.finished && l.flights.isEmpty

/-- End the lookup. -/
def finish (l : Lookup) : Lookup :=
  let (verb, state, report) := l.verb.finish { l.state with finished := true }
  { l with verb, state, reports := l.reports ++ [report] }

/-- Pass one candidate: ask it unless it was passed before. -/
def visit (v : Verb) (s : State) (c : Contact) : State × List Ask :=
  if c.id ∈ s.queried ∨ c.id = s.self then (s, [])
  else
    let s := { s with queried := c.id :: s.queried }
    match v.request s c with
    | none => (s, [])
    | some (request, expected) =>
      ({ s with outstanding := s.outstanding + 1, expected := s.expected + expected },
        [⟨c, request, expected⟩])

/-- Is no further request allowed for now? -/
def State.isBusy (s : State) (results : Nat) : Bool :=
  s.concurrency ≤ s.outstanding || s.budgetReached results

/-- Pass candidates in order until no further request is allowed. -/
def walk (v : Verb) : List Contact → State → State × List Ask
  | [], s => (s, [])
  | c :: cs, s =>
    let (s, asks) := visit v s c
    if s.isBusy v.resultCount then (s, asks)
    else
      let (s, more) := walk v cs s
      (s, asks ++ more)

/-- Does the termination condition hold? -/
def isMet (l : Lookup) : Bool :=
  l.state.termination.isMet l.verb.resultCount l.state.answered.length

/-- Pass the candidates to consider, and say whom to ask. -/
def advance (l : Lookup) : Lookup × List Ask :=
  let (next, candidates) :=
    l.state.candidates.closest (if l.verb.isFinding then some l.state.k else none)
  let (state, asks) := walk l.verb next { l.state with candidates }
  ({ l with state, asked := l.asked ++ asks }, asks)

/-- End the lookup if its termination is met or nothing is under way, else say whom to ask next. -/
def schedule (l : Lookup) : Lookup × List Ask :=
  let l := if !l.state.finished && l.isMet then l.finish else l
  if l.state.finished || l.state.budgetReached l.verb.resultCount then (l, [])
  else
    let (l, asks) := l.advance
    (if l.state.outstanding = 0 then l.finish else l, asks)

/-- Take in how a request fared, and say whom to ask next. A late answer changes nothing. -/
def settle (l : Lookup) (f : Flight) (result : Except CallError l.verb.Answer) :
    Lookup × List Ask × Verdict :=
  let landed (s : State) : State :=
    { s with outstanding := s.outstanding - 1, expected := s.expected - f.expected }
  match result with
  | .ok answer =>
    if l.state.finished ∨ f.contact.id ∈ l.state.answered then (l, [], .answered f.contact)
    else
      let s := landed l.state
      let (verb, state, reports) :=
        l.verb.process { s with answered := f.contact.id :: s.answered } f.contact answer
      let (l, asks) := schedule { l with verb, state, reports := l.reports ++ reports }
      (l, asks, .answered f.contact)
  | .error _ =>
    if l.state.finished then (l, [], .failed f.contact)
    else
      let (l, asks) := schedule { l with state := landed l.state }
      (l, asks, .failed f.contact)

/-- Add candidates to start with, and say whom to ask first. -/
def begin (l : Lookup) (seeds : List Contact) : Lookup × List Ask :=
  schedule { l with state := l.state.discoverAll seeds }

end Lookup

end Kademlia
