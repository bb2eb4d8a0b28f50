import Kademlia.Client.Basic
/-!
# The work of a client

A client works on all commands that wait, lets its host go on, and then continues the chains whose
first lookup has ended. A shutdown drops all that is under way and every command after it.
-/

namespace Kademlia.Client

open Exchange Service

variable {σ : Type}

/-- Let two lookups follow each other. -/
def chain [Server σ] (c : Client σ) (transport : Transport) (first next : Lookup.Goal)
    (waiter : Host.Channel) : Client σ :=
  let (channel, host) := c.host.openChannel
  { c with host := host.lookUp transport first channel, chains := c.chains ++ [⟨channel, next, waiter⟩] }

/-- Work on a command other than a shutdown. -/
def perform [Server σ] (c : Client σ) (transport : Transport) (waiter : Host.Channel) :
    Command → Client σ
  | .info => c.answer waiter (.info c.host.info)
  | .contacts => c.answer waiter (.contacts (c.host.table.contacts.map (·.address)))
  | .awaitBootstrap => { c with awaiting := c.awaiting ++ [waiter] }
  | .ping address => { c with host := c.host.probe transport address (some waiter) }
  | .lookUp goal => { c with host := c.host.lookUp transport goal waiter }
  | .fetch key count => c.chain transport (.findValue key) (.getValue key (.ofCount count)) waiter
  | .store key value => c.chain transport (.findNode key) (.storeValue key value) waiter
  | .shutdown => c

/-- Drop all that is under way, and answer the shutdown and those that wait behind it. -/
def finish (c : Client σ) (waiter : Host.Channel) : Client σ :=
  let others := (c.queue.filter fun l => l.command == .shutdown).map (·.waiter)
  { host := { c.host.stop with tasks := [], probes := [] }
    queue := []
    chains := []
    awaiting := []
    outcomes := c.outcomes ++ (waiter :: others).map fun w => (w, .closed)
    ended := true }

/-- Work on the first command that waits. -/
def open? [Server σ] (c : Client σ) (transport : Transport) : Option (Client σ) :=
  match c.queue with
  | [] => none
  | ⟨.shutdown, waiter⟩ :: queue => some (finish { c with queue } waiter)
  | ⟨command, waiter⟩ :: queue => some (perform { c with queue } transport waiter command)

/-- Work on all commands that wait. -/
def work [Server σ] (c : Client σ) (transport : Transport) : Client σ :=
  c.queue.length.repeat (fun c => (c.open? transport).getD c) c

/-- Start the second lookup of a chain if the first one has reported. -/
def continueChain [Server σ] (c : Client σ) (transport : Transport) (chain : Chain) : Client σ :=
  match c.host.take chain.first with
  | (.report (.contacts contacts) :: _, host) =>
    { c with host := host.start transport chain.next contacts chain.waiter }
  | (_, host) =>
    { c with host, chains := if host.isOpen chain.first then c.chains ++ [chain] else c.chains }

/-- Let all chains go on. -/
def continueChains [Server σ] (c : Client σ) (transport : Transport) : Client σ :=
  c.chains.foldl (fun c chain => c.continueChain transport chain) { c with chains := [] }

/-- Answer those that wait for the end of the bootstrap once it is over. -/
def answerAwaiting (c : Client σ) : Client σ :=
  if c.host.isBootstrapped then
    let populated := !c.host.table.isEmpty
    { c with
      awaiting := []
      outcomes := c.outcomes ++ c.awaiting.map fun w => (w, .populated populated) }
  else c

/-- Take in a datagram. -/
def receive [Server σ] (c : Client σ) (transport : Transport) (serverClock : Nat) (d : Datagram) : Client σ :=
  { c with host := c.host.receive transport serverClock d }

/-- Go on at an instant, after everything that arrived was taken in. -/
def advance [Server σ] (c : Client σ) (transport : Transport) (now : Nat) : Client σ :=
  (continueChains { c with host := c.host.advance transport now } transport).answerAwaiting

end Kademlia.Client
