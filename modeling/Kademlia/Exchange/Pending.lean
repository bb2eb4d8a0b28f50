import Kademlia.Entropy.Seeded
import Kademlia.Exchange.CallError
/-!
# Pending transactions

The requests of one session that wait for a reply, by transaction identifier. A transaction ends
only by being taken out, so it is never given two replies.
-/

namespace Kademlia.Exchange

/-- A request that waits for its reply. -/
structure Transaction where
  id : Bytes
  ticket : Ticket
  method : String
  deadline : Nat
  deriving DecidableEq, Repr

/-- The requests that wait for a reply. -/
abbrev Pending := List Transaction

namespace Pending

/-- Is a transaction identifier in use? -/
def uses (p : Pending) (id : Bytes) : Bool :=
  p.any fun t => t.id == id

/-- Is a ticket still open? -/
def holds (p : Pending) (ticket : Ticket) : Bool :=
  p.any fun t => t.ticket == ticket

/-- An identifier that is not in use: the number drawn, or else the next free one after it. If all
numbers of four octets are in use it is longer than every identifier in use. -/
def freshId (p : Pending) (draw : Nat) : Bytes :=
  let ids := (List.range (p.length + 1)).map fun i => Bytes.ofNat 4 (draw + i)
  (ids.find? fun id => !uses p id).getD
    (List.replicate ((p.flatMap (·.id)).length + 1) 0)

/-- Take a transaction out and give its ticket the reply. -/
def resolve (p : Pending) (id : Bytes) (reply : Reply) : List Delivery × Pending :=
  match p.find? fun t => t.id == id with
  | some t => ([⟨t.ticket, reply⟩], p.filter fun t => t.id != id)
  | none => ([], p)

/-- Take out the transactions whose deadline has come. -/
def expire (p : Pending) (address : Address) (now : Nat) : List Delivery × Pending :=
  let (due, rest) := p.partition fun t => t.deadline ≤ now
  (due.map fun t => ⟨t.ticket, .error (.timeout t.method address)⟩, rest)

/-- The replies to all transactions when nothing is waited for any more. -/
def stop (p : Pending) : List Delivery :=
  p.map fun t => ⟨t.ticket, .error .stopped⟩

end Pending

end Kademlia.Exchange
