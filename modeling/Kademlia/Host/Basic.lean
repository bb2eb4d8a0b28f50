import Kademlia.Lookup.Goal
import Kademlia.Service.ValueService
/-!
# Hosts

A node as it runs: its routing table, its server, and the pings and lookups under way, all over one
multiplexer. Results wait on channels. A channel is open as long as a ping or a lookup may still
deliver on it. A summary says what a host tells about itself at a moment.
-/

namespace Kademlia

open Wire Exchange Service

/-- Where results are waited for. -/
abbrev Host.Channel := Nat

/-- What a host delivers. -/
inductive Host.Item where
  /-- What a lookup reports. -/
  | report (report : Lookup.Report)
  /-- How a ping fared. -/
  | pong (result : Except CallError Contact)

/-- An item on a channel. -/
structure Host.Parcel where
  channel : Host.Channel
  item : Host.Item

/-- A ping under way, and who waits for it; nobody does for a ping of the bootstrap. -/
structure Host.Probe where
  address : Address
  call : Call
  waiter : Option Host.Channel

/-- A lookup under way, and the channel of its reports. -/
structure Host.Task where
  lookup : Lookup
  channel : Host.Channel

/-- How far a host is in joining the network. -/
inductive Host.Bootstrap where
  /-- It pings the addresses it was given. -/
  | pinging
  /-- It looks up its own identifier. -/
  | lookup (channel : Host.Channel)
  | done
  deriving DecidableEq, Repr

/-- What a host is set up with. -/
structure Host.Settings where
  id : Id
  address : Address
  /-- The size of a bucket, and the number of contacts a lookup considers. -/
  k : Nat := Routing.defaultBucketSize
  /-- How many requests of one lookup may be under way. -/
  concurrency : Nat := 4
  /-- At how many nodes a value is stored. -/
  redundancy : Nat := 3
  /-- How long a reply is waited for, in milliseconds. -/
  timeout : Nat := 20000
  maxPacket : Nat := defaultMaxPacket
  /-- Addresses of nodes to start with. -/
  contacts : List Address := []

/-- A node as it runs, with a server of type `σ`. -/
structure Host (σ : Type) where
  multiplexer : Multiplexer
  table : Routing.Table
  server : σ
  tasks : List Host.Task
  probes : List Host.Probe
  bootstrap : Host.Bootstrap
  /-- The instant of the latest tick, at which requests between ticks are sent. -/
  clock : Nat
  k : Nat
  concurrency : Nat
  redundancy : Nat
  /-- All smaller channels are given out. -/
  nextChannel : Host.Channel
  /-- Items that nobody took yet, the earliest first. -/
  parcels : List Host.Parcel

/-- A summary of a host. -/
structure Host.Info where
  id : Id
  address : Address
  /-- How many contacts are in the routing table. -/
  contacts : Nat
  /-- How many lookups are under way. -/
  tasks : Nat
  bootstrapped : Bool
  deriving DecidableEq, Repr

namespace Host

variable {σ : Type}

/-- The own identifier. -/
def id (h : Host σ) : Id :=
  h.table.id

/-- The own address. -/
def address (h : Host σ) : Address :=
  h.multiplexer.own

/-- Did the lookup of the own identifier end? -/
def isBootstrapped (h : Host σ) : Bool :=
  h.bootstrap == .done

/-- The summary of a host. -/
def info (h : Host σ) : Info :=
  ⟨h.id, h.address, h.table.size, h.tasks.length, h.isBootstrapped⟩

/-- A new channel. -/
def openChannel (h : Host σ) : Channel × Host σ :=
  (h.nextChannel, { h with nextChannel := h.nextChannel + 1 })

/-- Put an item on a channel. -/
def deliver (h : Host σ) (channel : Channel) (item : Item) : Host σ :=
  { h with parcels := h.parcels ++ [⟨channel, item⟩] }

/-- Take all items from a channel. -/
def take (h : Host σ) (channel : Channel) : List Item × Host σ :=
  let (taken, parcels) := h.parcels.partition fun p => p.channel == channel
  (taken.map (·.item), { h with parcels })

/-- Is there an item on a channel? -/
def hasItem (h : Host σ) (channel : Channel) : Bool :=
  h.parcels.any fun p => p.channel == channel

/-- May something still be delivered on a channel? -/
def isOpen (h : Host σ) (channel : Channel) : Bool :=
  (h.tasks.any fun t => t.channel == channel) || h.probes.any fun p => p.waiter == some channel

/-- Where and when the requests of lookups are made. -/
def site (h : Host σ) (transport : Transport) : Lookup.Site :=
  ⟨transport, h.id, h.clock⟩

end Host

end Kademlia
