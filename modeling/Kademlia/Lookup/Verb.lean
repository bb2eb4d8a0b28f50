import Kademlia.Exchange.Call
import Kademlia.Lookup.Candidates
import Kademlia.Lookup.Termination
/-!
# Lookup verbs

What a lookup is for: which request it sends to a candidate, what it learns from the answer, and
what it reports at the end. Finding verbs learn new candidates and ask only the closest ones; the
others walk through the candidates they start with.
-/

namespace Kademlia

open Bencode Wire Exchange

/-- Everything the scheduling of a lookup depends on. -/
structure Lookup.State where
  target : Id
  /-- The own identifier, which is never a candidate. -/
  self : Id
  candidates : Lookup.Candidates
  /-- The identifiers that need not be asked any more. -/
  queried : List Id
  /-- The identifiers that answered in time. -/
  answered : List Id
  termination : Lookup.Termination
  /-- How many requests are under way. -/
  outstanding : Nat
  /-- How many results those requests should bring. Kept exact: a word would hold the remainder, and adding
  and subtracting respects it, so that it is enough to take the remainder where the number is compared. -/
  expected : Nat
  finished : Bool
  /-- How many of the closest candidates a finding lookup considers. -/
  k : Nat
  /-- How many requests may be under way, at least one. -/
  concurrency : Nat

/-- What a lookup hands to whom it works for. -/
inductive Lookup.Report where
  | contacts (contacts : List Contact)
  /-- Some new values; none at all after the last ones. -/
  | values (values : List Bytes)
  deriving DecidableEq, Repr

/-- What a lookup is for, with what it gathered. -/
inductive Lookup.Verb where
  /-- Find the contacts closest to the target. -/
  | findNode
  /-- Find the nodes that hold values for the target. -/
  | findValue
  /-- Fetch values, apart from those that are known. -/
  | getValue (seen : List Bytes)
  /-- Store a value, and gather the nodes that did. -/
  | storeValue (value : Bytes) (acknowledged : List Contact)
  deriving DecidableEq, Repr

namespace Lookup

namespace State

/-- A state without candidates. -/
def new (target self : Id) (termination : Termination) (k concurrency : Nat) : State :=
  { target, self, candidates := .empty target, queried := [], answered := [], termination
    outstanding := 0, expected := 0, finished := false, k, concurrency := max concurrency 1 }

/-- Add a candidate, unless it is the own node. -/
def discover (s : State) (c : Contact) : State :=
  if c.id = s.self then s else { s with candidates := (s.candidates.insert c).2 }

/-- Add several candidates. -/
def discoverAll (s : State) (cs : List Contact) : State :=
  cs.foldl discover s

/-- Would the results there are, with those under way, be enough? -/
def budgetReached (s : State) (results : Nat) : Bool :=
  s.termination.reachedBy (results + s.expected)

end State

/-- The values that are not known yet, each once. -/
def freshValues (seen : List Bytes) : List Bytes → List Bytes
  | [] => []
  | v :: vs => if v ∈ seen then freshValues seen vs else v :: freshValues (v :: seen) vs

namespace Verb

/-- The name of a verb. -/
def name : Verb → String
  | findNode => Method.findNode
  | findValue => Method.findValue
  | getValue _ => Method.getValue
  | storeValue .. => Method.storeValue

/-- A verb that fetches values besides those that are known. -/
def fetch (known : List Bytes) : Verb :=
  getValue (freshValues [] known)

/-- Does the lookup learn candidates from answers, and ask only the closest ones? -/
def isFinding : Verb → Bool
  | findNode | findValue => true
  | _ => false

/-- The payload that answers the request of a verb. -/
def Answer : Verb → Type
  | findNode => FindNode.Answer
  | findValue => FindValue.Answer
  | getValue _ => GetValue.Answer
  | storeValue .. => StoreValue.Answer

/-- The answer in a verified reply. -/
def parse : (v : Verb) → Reply → Except CallError v.Answer
  | findNode, r => Call.parse FindNode.Answer r
  | findValue, r => Call.parse FindValue.Answer r
  | getValue _, r => Call.parse GetValue.Answer r
  | storeValue .., r => Call.parse StoreValue.Answer r

/-- The number of results gathered so far. -/
def resultCount : Verb → Nat
  | getValue seen => seen.length
  | storeValue _ acknowledged => acknowledged.length
  | _ => 0

/-- The request to a candidate, and how many results it should bring; none if it is not to be asked.
To ask for more values than a node announced is to ask for all of them. -/
def request (v : Verb) (s : State) (c : Contact) : Option (Request × Nat) :=
  match v with
  | findNode => some (.findNode s.target, 0)
  | findValue => some (.findValue s.target, 0)
  | getValue seen =>
    if c.announced = 0 then none
    else
      let num := match s.termination.budget with
        | some budget => if budget - seen.length ≤ c.announced then budget - seen.length else 0
        | none => 0
      some (.getValue s.target num, c.announced)
  | storeValue value _ => c.token.map fun token => (.storeValue s.target value token, 1)

/-- What the lookup learns from the answer of a candidate, and what it reports of it. -/
def process (v : Verb) (s : State) (c : Contact) (answer : v.Answer) : Verb × State × List Report :=
  match v, answer with
  | findNode, (a : FindNode.Answer) =>
    let candidates := s.candidates.modify a.id fun n => n.withToken a.token
    (findNode, { s with candidates }.discoverAll a.nodes, [])
  | findValue, (a : FindValue.Answer) =>
    let candidates := s.candidates.modify a.id fun n => (n.withAnnounced a.num).withToken a.token
    (findValue, { s with candidates }.discoverAll a.nodes, [])
  | getValue seen, (a : GetValue.Answer) =>
    let fresh := freshValues seen a.values
    (getValue (seen ++ fresh), s, if fresh.isEmpty then [] else [.values fresh])
  | storeValue value acknowledged, _ => (storeValue value (acknowledged ++ [c]), s, [])

/-- The last report of a lookup. -/
def finish (v : Verb) (s : State) : Verb × State × Report :=
  match v with
  | findNode =>
    let (contacts, candidates) := s.candidates.closest (some s.k)
    (findNode, { s with candidates }, .contacts contacts)
  | findValue =>
    let (contacts, candidates) := s.candidates.closest none
    (findValue, { s with candidates }, .contacts (contacts.filter fun c => 0 < c.announced))
  | getValue seen => (getValue seen, s, .values [])
  | storeValue value acknowledged => (storeValue value [], s, .contacts acknowledged)

end Verb

end Lookup

end Kademlia
