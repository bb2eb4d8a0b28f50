import Kademlia.Host.Start
/-!
# The event loop

A tick takes in the datagrams that arrived, expires requests, and lets pings, lookups and the
bootstrap go on, in this order. A contact gets into the routing table only by a request of its own
that was answered, or by a response of its own to a ping or to a lookup.
-/

namespace Kademlia.Host

open Bencode Wire Exchange Service

variable {σ : Type}

/-- Answer a request and get to know its sender if there is an answer. -/
def respond [Server σ] (serverClock : Nat) : Responder (Routing.Table × σ) := fun sender query (table, server) =>
  let (answer, server) := Server.handle serverClock ⟨sender, table⟩ query server
  match answer, authorOf query.arguments with
  | .ok _, some id => (answer, (table.add { id, address := sender }).2, server)
  | _, _ => (answer, table, server)

/-- Take in a datagram. -/
def receive [Server σ] (h : Host σ) (transport : Transport) (serverClock : Nat) (d : Datagram) : Host σ :=
  let (multiplexer, table, server) :=
    h.multiplexer.receive transport (respond serverClock) d (h.table, h.server)
  { h with multiplexer, table, server }

/-- Take in several datagrams. -/
def receiveAll [Server σ] (h : Host σ) (transport : Transport) (serverClock : Nat) (ds : List Datagram) :
    Host σ :=
  ds.foldl (fun h d => h.receive transport serverClock d) h

/-- Expire the requests that are due at an instant. -/
def expire (h : Host σ) (now : Nat) : Host σ :=
  { h with clock := now, multiplexer := h.multiplexer.expire now }

/-- Take in how a ping fared. -/
def settleProbe (h : Host σ) (p : Probe) (result : Except CallError Ping.Answer) : Host σ :=
  let result := result.map fun a => ({ id := a.id, address := p.address } : Contact)
  let h := match result with
    | .ok contact => { h with table := (h.table.add contact).2 }
    | .error _ => h
  match p.waiter with
  | some channel => h.deliver channel (.pong result)
  | none => h

/-- Look at pings in turn; one that is over gives its place to the last one. -/
def sweepProbes (h : Host σ) (kept rest : List Probe) : Host σ :=
  match rest with
  | [] => { h with probes := kept }
  | p :: ps =>
    match p.call.pollAs Ping.Answer h.multiplexer with
    | (none, multiplexer) => sweepProbes { h with multiplexer } (kept ++ [p]) ps
    | (some result, multiplexer) =>
      sweepProbes (settleProbe { h with multiplexer } p result) kept (Lookup.refill ps)
termination_by rest.length

/-- Let all pings go on. -/
def tickProbes (h : Host σ) : Host σ :=
  h.sweepProbes [] h.probes

/-- Note in the routing table how a request fared. -/
def settleVerdict (table : Routing.Table) : Lookup.Verdict → Routing.Table
  | .answered contact => (table.add contact).2
  | .failed contact => table.fail contact

/-- Let one lookup go on. -/
def tickTask (h : Host σ) (transport : Transport) (t : Task) : Host σ :=
  let (lookup, multiplexer, verdicts) := t.lookup.tick (h.site transport) h.multiplexer
  keep { h with multiplexer, table := verdicts.foldl settleVerdict h.table } { t with lookup }

/-- Let all lookups go on. -/
def tickTasks (h : Host σ) (transport : Transport) : Host σ :=
  h.tasks.foldl (fun h t => h.tickTask transport t) { h with tasks := [] }

/-- Let the bootstrap go on. -/
def tickBootstrap [Server σ] (h : Host σ) (transport : Transport) : Host σ :=
  match h.bootstrap with
  | .pinging =>
    if h.probes.any fun p => p.waiter.isNone then h
    else
      let (channel, h) := h.openChannel
      let h := h.lookUp transport (.findNode h.id) channel
      { h with bootstrap := .lookup channel }
  | .lookup channel =>
    if h.hasItem channel || !h.isOpen channel then { (h.take channel).2 with bootstrap := .done } else h
  | .done => h

/-- Go on at an instant, after everything that arrived was taken in. -/
def advance [Server σ] (h : Host σ) (transport : Transport) (now : Nat) : Host σ :=
  (((h.expire now).tickProbes).tickTasks transport).tickBootstrap transport

/-- Take in the datagrams that arrived, and go on at an instant. -/
def tick [Server σ] (h : Host σ) (transport : Transport) (serverClock now : Nat) (ds : List Datagram) :
    Host σ :=
  (h.receiveAll transport serverClock ds).advance transport now

end Kademlia.Host
