import Kademlia.Address.Resolver
import Kademlia.Host.Basic
/-!
# Starting pings and lookups

A lookup reports at once what it knows at once, and one that has nothing to wait for never becomes
a task. A new host pings the addresses it is given.
-/

namespace Kademlia.Host

open Wire Exchange Service

variable {σ : Type}

/-- Ping an address for whoever waits on a channel. -/
def probe (h : Host σ) (transport : Transport) (address : Address) (waiter : Option Channel) : Host σ :=
  let (call, multiplexer) := h.multiplexer.call transport h.id address none .ping h.clock
  { h with multiplexer, probes := h.probes ++ [⟨address, call, waiter⟩] }

/-- Ping an address. -/
def ping (h : Host σ) (transport : Transport) (address : Address) : Channel × Host σ :=
  let (channel, h) := h.openChannel
  (channel, h.probe transport address (some channel))

/-- Deliver what a lookup reports, and keep it as a task unless it is done. -/
def keep (h : Host σ) (t : Task) : Host σ :=
  { h with
    parcels := h.parcels ++ t.lookup.reports.map fun r => ⟨t.channel, .report r⟩
    tasks := if t.lookup.isDone then h.tasks
      else h.tasks ++ [{ t with lookup := { t.lookup with reports := [] } }] }

/-- The values of the host itself that a goal asks for. -/
def known [Server σ] (h : Host σ) (goal : Lookup.Goal) : List Bytes × Host σ :=
  match goal with
  | .getValue key _ =>
    let (values, server) := Server.localValues key h.server
    (values, { h with server })
  | _ => ([], h)

/-- Start a lookup from some contacts, with its reports on a channel. Values of the host itself are
reported first. -/
def start [Server σ] (h : Host σ) (transport : Transport) (goal : Lookup.Goal) (seeds : List Contact)
    (channel : Channel) : Host σ :=
  let (known, h) := h.known goal
  let h := if known.isEmpty then h else h.deliver channel (.report (.values known))
  let state := Lookup.State.new goal.target h.id (goal.termination h.redundancy) h.k h.concurrency
  let (lookup, multiplexer) :=
    (Lookup.new (goal.verb known) state).launch (h.site transport) seeds h.multiplexer
  keep { h with multiplexer } ⟨lookup, channel⟩

/-- Start a lookup from the closest contacts of the routing table. -/
def lookUp [Server σ] (h : Host σ) (transport : Transport) (goal : Lookup.Goal) (channel : Channel) :
    Host σ :=
  h.start transport goal (h.table.closest goal.target h.k) channel

/-- Start a lookup from some contacts, or else from the closest ones of the routing table. -/
def find [Server σ] (h : Host σ) (transport : Transport) (goal : Lookup.Goal)
    (seeds : Option (List Contact)) : Channel × Host σ :=
  let (channel, h) := h.openChannel
  match seeds with
  | some seeds => (channel, h.start transport goal seeds channel)
  | none => (channel, h.lookUp transport goal channel)

/-- A host that starts at instant zero. -/
def new (settings : Settings) (server : σ) (entropy : Entropy) (transport : Transport) : Host σ :=
  let h : Host σ :=
    { multiplexer := .new settings.address settings.timeout settings.maxPacket entropy
      table := .empty settings.id settings.k
      server
      tasks := []
      probes := []
      bootstrap := .pinging
      clock := 0
      k := settings.k
      concurrency := settings.concurrency
      redundancy := settings.redundancy
      nextChannel := 0
      parcels := [] }
  settings.contacts.foldl (fun h address => h.probe transport address none) h

/-- Fail all requests under way. -/
def stop (h : Host σ) : Host σ :=
  { h with multiplexer := h.multiplexer.stop }

/-- The addresses that some texts lead to and a host can start with; one of the newer family cannot. -/
def contactAddresses (texts : List String) : List Address :=
  (texts.filterMap Address.resolve?).filter fun a => a.ip.isV4

end Kademlia.Host
