import Kademlia.Host.Tick
/-!
# Networks

Hosts that exchange datagrams in memory. A datagram to an address that cannot be reached fails; one
on a blocked way or to an address where nobody is bound is lost. Nothing is reordered.
-/

namespace Kademlia

open Wire Exchange Service

/-- A datagram with both its ends. -/
structure Network.Packet where
  source : Address
  target : Address
  bytes : Bytes
  deriving DecidableEq, Repr

/-- What arrived at an address that is bound, and was not read yet. -/
structure Network.Inbox where
  owner : Address
  datagrams : List Datagram
  deriving DecidableEq, Repr

/-- Hosts with servers of type `σ`, and everything that is on its way. -/
structure Network (σ : Type) where
  hosts : List (Host σ)
  inboxes : List Network.Inbox
  /-- The ways, from an address to another, on which all is lost. -/
  blocked : List (Address × Address)
  /-- The addresses to which nothing can be sent. -/
  unreachable : List Address
  /-- What was sent and not looked at yet, the earliest first. -/
  packets : List Network.Packet

namespace Network

/-- One word or two about the message in a packet. -/
def Packet.kind (p : Packet) : String :=
  match Message.decode p.bytes with
  | .error _ => "malformed"
  | .ok m =>
    match m.body with
    | .request q => s!"q {q.method}"
    | .response _ => "r"
    | .error e => s!"e {e.code.toInt}"
    | .unknown _ => "unknown"

/-- A line about a packet. -/
def Packet.text (p : Packet) : String :=
  s!"{p.source.text} > {p.target.text} {p.kind}"

variable {σ : Type}

/-- No host. -/
def empty : Network σ :=
  ⟨[], [], [], [], []⟩

/-- What can be sent. -/
def transport (n : Network σ) : Transport := fun address =>
  if address ∈ n.unreachable then some s!"{address.text} is unreachable" else none

/-- Collect what arrives at an address. Whoever is bound there reads from the same inbox, so to bind
an address again changes nothing. -/
def bind (n : Network σ) (owner : Address) : Network σ :=
  if n.inboxes.any fun i => i.owner == owner then n else { n with inboxes := n.inboxes ++ [⟨owner, []⟩] }

/-- Put a packet on its way. -/
def send (n : Network σ) (p : Packet) : Network σ :=
  let n := { n with packets := n.packets ++ [p] }
  if (p.source, p.target) ∈ n.blocked then n
  else
    { n with
      inboxes := n.inboxes.map fun i =>
        if i.owner = p.target then { i with datagrams := i.datagrams ++ [⟨p.source, p.bytes⟩] } else i }

/-- Put a packet on its way, unless its target cannot be reached. -/
def offer (n : Network σ) (p : Packet) : Bool × Network σ :=
  if p.target ∈ n.unreachable then (false, n) else (true, n.send p)

/-- Lose all on the way from an address to another. -/
def block (n : Network σ) (source target : Address) : Network σ :=
  { n with blocked := (source, target) :: n.blocked }

/-- Lose nothing on the way from an address to another. -/
def unblock (n : Network σ) (source target : Address) : Network σ :=
  { n with blocked := n.blocked.filter fun way => way ≠ (source, target) }

/-- Let nothing be sent to an address. -/
def cutOff (n : Network σ) (address : Address) : Network σ :=
  { n with unreachable := address :: n.unreachable }

/-- Read everything that arrived at an address. -/
def read (n : Network σ) (owner : Address) : List Datagram × Network σ :=
  ((n.inboxes.filter fun i => i.owner = owner).flatMap (·.datagrams),
    { n with
      inboxes := n.inboxes.map fun i => if i.owner = owner then { i with datagrams := [] } else i })

/-- Look at what was sent since the last time. -/
def takePackets (n : Network σ) : List Packet × Network σ :=
  (n.packets, { n with packets := [] })

/-- The packets a host wants to send, and the host without them. -/
def outgoing (h : Host σ) : List Packet × Host σ :=
  let (sent, multiplexer) := h.multiplexer.takeOutbox
  (sent.map fun d => ⟨h.address, d.peer, d.bytes⟩, { h with multiplexer })

/-- Let a host do something, and send what it wants to send. -/
def act {α : Type} (n : Network σ) (i : Nat) (f : Host σ → α × Host σ) : Option (α × Network σ) :=
  n.hosts[i]?.map fun h =>
    let (a, h) := f h
    let (packets, h) := outgoing h
    (a, packets.foldl send { n with hosts := n.hosts.set i h })

/-- Let a host ping an address. -/
def ping (n : Network σ) (i : Nat) (address : Address) : Option (Host.Channel × Network σ) :=
  n.act i fun h => h.ping n.transport address

/-- Let a host start a lookup from some contacts, or else from those of its routing table. -/
def find [Server σ] (n : Network σ) (i : Nat) (goal : Lookup.Goal) (seeds : Option (List Contact)) :
    Option (Host.Channel × Network σ) :=
  n.act i fun h => h.find n.transport goal seeds

/-- Set up a host, which at once sends its first pings. -/
def addHost (n : Network σ) (settings : Host.Settings) (server : σ) (entropy : Entropy) : Network σ :=
  let n := n.bind settings.address
  let (packets, h) := outgoing (Host.new settings server entropy n.transport)
  packets.foldl send { n with hosts := n.hosts ++ [h] }

/-- Let a host take in what arrived, and go on at an instant. -/
def tick [Server σ] (n : Network σ) (serverClock now : Nat) (i : Nat) : Network σ :=
  match n.hosts[i]? with
  | none => n
  | some h =>
    let (datagrams, n) := n.read h.address
    match n.act i fun h => ((), h.tick n.transport serverClock now datagrams) with
    | some (_, n) => n
    | none => n

/-- Let all hosts in turn take in what arrived, and go on at an instant. -/
def round [Server σ] (n : Network σ) (serverClock now : Nat) : Network σ :=
  (List.range n.hosts.length).foldl (fun n i => n.tick serverClock now i) n

/-- Is there something to read for a host? -/
def isBusy (n : Network σ) : Bool :=
  n.hosts.any fun h => n.inboxes.any fun i => i.owner == h.address && !i.datagrams.isEmpty

/-- Let the hosts go on at an instant until there is nothing to read for them, or `rounds` is used
up. -/
def settle [Server σ] (n : Network σ) (serverClock now : Nat) : (rounds : Nat) → Network σ
  | 0 => n
  | rounds + 1 =>
    let n := n.round serverClock now
    if n.isBusy then n.settle serverClock now rounds else n

end Network

end Kademlia
