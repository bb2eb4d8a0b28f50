import Kademlia.Client.Step
import Kademlia.Network.Basic
/-!
# Deployments

A client among the hosts of a network. Whenever it sends a datagram the other hosts go on until
nothing is left to read for them, so their answers are there when the client reads the next time.
-/

namespace Kademlia.Network

open Exchange Service

/-- A client at an address of a network. -/
structure Deployment (σ : Type) where
  network : Network σ
  client : Client σ

namespace Deployment

variable {σ : Type} [Server σ]

/-- How often the other hosts go on before the client does again, at most. -/
def patience : Nat := 1000

/-- Send what the client wants to send. -/
def flush (d : Deployment σ) : Deployment σ :=
  let (packets, host) := outgoing d.client.host
  { network := packets.foldl (fun n p => (n.send p).settle 0 0 patience) d.network
    client := { d.client with host } }

/-- Let the client take in what arrived, one datagram after the other. -/
def readAll (d : Deployment σ) : (rounds : Nat) → Deployment σ
  | 0 => d
  | rounds + 1 =>
    match d.network.read d.client.host.address with
    | ([], _) => d
    | (datagrams, network) =>
      let step (d : Deployment σ) (datagram : Datagram) : Deployment σ :=
        flush { d with client := d.client.receive d.network.transport 0 datagram }
      readAll (datagrams.foldl step { d with network }) rounds

/-- Let the client work on its commands, read, and go on. -/
def tick (d : Deployment σ) : Deployment σ :=
  let d := flush { d with client := d.client.work d.network.transport }
  if d.client.ended then d
  else
    let d := d.readAll patience
    flush { d with client := d.client.advance d.network.transport 0 }

/-- Let the client tick `rounds` times. -/
def run (d : Deployment σ) (rounds : Nat) : Deployment σ :=
  rounds.repeat tick d

/-- Hand in a command. -/
def submit (d : Deployment σ) (command : Client.Command) : Option Host.Channel × Deployment σ :=
  match d.client.submit command with
  | some (waiter, client) => (some waiter, { d with client })
  | none => (none, d)

/-- Take what came of a command, if it was accepted. -/
def collect (d : Deployment σ) (waiter : Option Host.Channel) :
    Except Client.Ended (List Client.Outcome) × Deployment σ :=
  match waiter with
  | some waiter => (d.client.take waiter).map .ok fun client => { d with client }
  | none => (.error .ended, d)

/-- Deploy a client at an address of a network. -/
def new (network : Network σ) (settings : Host.Settings) (server : σ) (entropy : Entropy) : Deployment σ :=
  let network := network.bind settings.address
  flush ⟨network, .new (Host.new settings server entropy network.transport)⟩

end Deployment

end Kademlia.Network
