import Kademlia.Host.Tick
/-!
# Clients

A client works on commands for a host. Each command comes with a channel for its outcome. A value is
fetched or stored by two lookups, one after the other, which a chain ties together. A client that has
ended answers no command.
-/

namespace Kademlia

open Exchange

/-- What a client can be told to do. -/
inductive Client.Command where
  /-- Summarize the host. -/
  | info
  /-- List the addresses of all contacts. -/
  | contacts
  /-- Wait for the end of the bootstrap. -/
  | awaitBootstrap
  | ping (address : Address)
  | lookUp (goal : Lookup.Goal)
  /-- Find the nodes that hold values of a key, and fetch so many, or all if the count is zero. -/
  | fetch (key : Id) (count : Nat)
  /-- Find the nodes closest to a key, and store a value there. -/
  | store (key : Id) (value : Bytes)
  | shutdown
  deriving DecidableEq, Repr

/-- What comes of a command. -/
inductive Client.Outcome where
  | info (info : Host.Info)
  | contacts (addresses : List Address)
  /-- The bootstrap is over; did it find any contact? -/
  | populated (found : Bool)
  /-- A report of a lookup, or how a ping fared. -/
  | item (item : Host.Item)
  /-- The shutdown is complete. -/
  | closed

/-- A lookup that starts with the contacts another one reports. -/
structure Client.Chain where
  first : Host.Channel
  next : Lookup.Goal
  waiter : Host.Channel
  deriving DecidableEq, Repr

/-- A command that was not looked at yet, and the channel of its outcome. -/
structure Client.Letter where
  command : Client.Command
  waiter : Host.Channel
  deriving DecidableEq, Repr

/-- A host with the commands for it. -/
structure Client (σ : Type) where
  host : Host σ
  queue : List Client.Letter
  chains : List Client.Chain
  /-- Who waits for the end of the bootstrap. -/
  awaiting : List Host.Channel
  outcomes : List (Host.Channel × Client.Outcome)
  ended : Bool

namespace Client

variable {σ : Type}

/-- A client without commands. -/
def new (host : Host σ) : Client σ :=
  ⟨host, [], [], [], [], false⟩

/-- Hand in a command, unless the client has ended. -/
def submit (c : Client σ) (command : Command) : Option (Host.Channel × Client σ) :=
  if c.ended then none
  else
    let (waiter, host) := c.host.openChannel
    some (waiter, { c with host, queue := c.queue ++ [⟨command, waiter⟩] })

/-- Put an outcome on a channel. -/
def answer (c : Client σ) (waiter : Host.Channel) (outcome : Outcome) : Client σ :=
  { c with outcomes := c.outcomes ++ [(waiter, outcome)] }

/-- Take all outcomes from a channel. -/
def take (c : Client σ) (waiter : Host.Channel) : List Outcome × Client σ :=
  let (items, host) := c.host.take waiter
  let (taken, outcomes) := c.outcomes.partition fun o => o.1 == waiter
  (taken.map (·.2) ++ items.map .item, { c with host, outcomes })

/-- May something still come on a channel? -/
def isOpen (c : Client σ) (waiter : Host.Channel) : Bool :=
  c.host.isOpen waiter || (c.queue.any fun l => l.waiter == waiter) ||
    (c.chains.any fun chain => chain.waiter == waiter) || c.awaiting.contains waiter

/-! ### What the caller of a command makes of its outcomes -/

/-- Why nothing came of a command. -/
inductive Ended where
  | ended
  deriving DecidableEq, Repr

/-- The text of the reason. -/
def Ended.message : Ended → String
  | ended => "The Dht was shutdown"

/-- The only outcome of a command other than a fetch. -/
def outcome : List Outcome → Except Ended Outcome
  | o :: _ => .ok o
  | [] => .error .ended

/-- The values an outcome brings. -/
def Outcome.batch? : Outcome → Option (List Bytes)
  | item (.report (.values values)) => some values
  | _ => none

/-- The outcomes of a fetch, batch by batch; the last batch is empty. -/
def batches (outcomes : List Outcome) : List (List Bytes) :=
  outcomes.filterMap Outcome.batch?

/-- The values of all batches before the empty one. -/
def values (outcomes : List Outcome) : List Bytes :=
  ((batches outcomes).takeWhile fun batch => !batch.isEmpty).flatten

end Client

end Kademlia
